import DetectorStream.Delivery.Frame
import DetectorStream.Files
import DetectorStream.Wire.Format

/-!
# Verifying a file of frames

A file that a run has written holds complete frames, each of which decodes, and the messages are
numbered from zero.

* `Verify.messages`: the check of decoded frames.
* `Verify.file`: how many messages and events a file holds, or what is wrong with it.
-/

namespace DetectorStream.Verify

/-- The complaint about a frame that does not decode, under the kind of its cause. -/
def undecodable (i : Nat) (f : Fault) : Fault :=
  Fault.wrap f.kind ("frame " ++ Decimal.ofNat i ++ " does not decode") f

/-- The complaint about a message with the wrong number. -/
def misnumbered (i : Nat) (id : UInt64) : Fault :=
  .report .encoding ("frame " ++ Decimal.ofNat i ++ " carries message id " ++ Decimal.ofNat id.toNat)

/-- The number of events in frames that are numbered from `i` on. -/
def messages (format : Format) : (i : Nat) → List Bytes → Except Fault Nat
  | _, [] => .ok 0
  | i, frame :: rest =>
    match format.decode frame with
    | .error f => .error (undecodable i f)
    | .ok m =>
      if m.id = i.toUInt64 then (messages format (i + 1) rest).map (m.size + ·)
      else .error (misnumbered i m.id)

/-- How many messages and events a stream of frames holds. -/
def stream (format : Format) (s : Stream) : Except Fault (Nat × Nat) :=
  match Frame.decode s with
  | (_, some f) => .error f
  | (frames, none) => (messages format 0 frames).map fun events => (frames.length, events)

/-- A file as a stream; a directory opens and cannot be read. -/
def opened (fs : Files) (path : Text) : Except Fault Stream :=
  match fs.node path with
  | .error e => .error (Fault.wrap .sourceUnavailable "cannot open encoded output" (e.fault "open" path))
  | .ok (.file bs) => .ok ⟨bs, .clean, false⟩
  | .ok .directory => .ok ⟨[], .broken (Errno.isDirectory.fault "read" path), false⟩
  | .ok _ => .ok ⟨[], .clean, false⟩

/-- How many messages and events a file holds. Any format but JSON is read as `ev42`. -/
def file (fs : Files) (path format : Text) : Except Fault (Nat × Nat) :=
  match opened fs path with
  | .error f => .error f
  | .ok s => stream (if format == Format.json.name then .json else .ev42) s

end DetectorStream.Verify
