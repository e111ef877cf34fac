import DetectorStream.Octets.LittleEndian
import DetectorStream.Octets.Stream

/-!
# Frames

Messages in a file stand one after the other, each as a frame: its length in four octets, then the
message.

* `Frame.encode`: one frame.
* `Frame.decode`: the messages of a stream of frames, and why reading stopped early, if it did.
-/

namespace DetectorStream.Frame

/-- The octets that hold the length of a message. -/
def headerSize : Nat := 4

/-- The length of a message as it stands in front of it. A length that needs more than four octets
loses the higher ones. -/
def header (message : Bytes) : Bytes := LittleEndian.put headerSize message.length

/-- A message behind its length. -/
def encode (message : Bytes) : Bytes := header message ++ message

/-- What is wrong with a stream that ends inside a frame. -/
def truncated (what : Text) (f : Fault) : Fault := Fault.wrap .malformedSource what f

/-- The messages of a stream, onto the reversed list of those read so far. Every frame takes octets,
so that `fuel` octets hold at most `fuel` frames. -/
def decodeOnto : (fuel : Nat) → (acc : List Bytes) → Stream → List Bytes × Option Fault
  | 0, acc, _ => (acc.reverse, none)
  | fuel + 1, acc, s =>
    match s.readFull headerSize with
    | .error f =>
      (acc.reverse,
        if f.anySignal (· == .endOfInput) then none else some (truncated "truncated frame header" f))
    | .ok (h, rest) =>
      match rest.readFull (LittleEndian.get h) with
      | .error f => (acc.reverse, some (truncated "truncated frame" f))
      | .ok (message, rest) => decodeOnto fuel (message :: acc) rest

/-- The messages of a stream of frames, and why reading stopped before its end, if it did. -/
def decode (s : Stream) : List Bytes × Option Fault := decodeOnto (s.bytes.length + 1) [] s

end DetectorStream.Frame
