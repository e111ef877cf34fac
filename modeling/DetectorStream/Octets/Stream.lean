import DetectorStream.Fault.Basic

/-!
# Streams

What a reader sees of a source: the octets it delivers, and how it ends after them, cleanly or with
a failure such as a damaged compressed file.

* `Stream.readFull`: exactly `n` octets, or why there are fewer.
* `Reader`, `Consumer`: octets that come read by read, and whoever asks for them.
* `Consumer.gather`: the stream of a reader.
-/

namespace DetectorStream

/-- How a stream ends. -/
inductive Ending
  | clean
  | broken (f : Fault)
deriving DecidableEq, Repr

/-- The octets of a stream and how it ends after them. -/
structure Stream where
  bytes : Bytes
  ending : Ending := .clean
  /-- A failure is reported along with the last octets, not after them. -/
  abrupt : Bool := false
deriving DecidableEq, Repr

namespace Stream

/-- A stream that is damaged after its octets. -/
def damaged (bytes : Bytes) (abrupt : Bool := false) : Stream := ⟨bytes, .broken .withheld, abrupt⟩

/-- Is the stream damaged? -/
def isDamaged (s : Stream) : Bool := s.ending != .clean

/-- Why a read that got `got` octets of those it wanted failed: at a clean end, reading nothing is
the end and reading something is an unexpected end. -/
def shortfall (s : Stream) (got : Nat) : Fault :=
  match s.ending with
  | .broken f => f
  | .clean => if got = 0 then .signal .endOfInput else .signal .unexpectedEnd

/-- Read exactly `n` octets. -/
def readFull (s : Stream) (n : Nat) : Except Fault (Bytes × Stream) :=
  let head := s.bytes.take n
  if head.length < n then .error (s.shortfall head.length)
  else .ok (head, { s with bytes := s.bytes.drop n })

end Stream

/-- Reads up to so many octets and moves on. A fault may come along with octets. -/
abbrev Reader (σ : Type) := σ → Nat → σ × Bytes × Option Fault

/-- Whoever asks a reader for octets, with a buffer for each read. The next buffer, and when to stop,
may depend on all that was read. -/
inductive Consumer (α : Type)
  | done (result : α)
  /-- Ask with a buffer for one octet and `spare` more. Readers differ on a buffer without room: a
  mapping tells the end of its octets even then, a file does not. -/
  | ask (spare : Nat) (next : Bytes → Option Fault → Consumer α)

namespace Consumer

/-- The result of asking a reader. -/
def run {α σ : Type} (read : Reader σ) : Consumer α → σ → α
  | done result, _ => result
  | ask spare next, s =>
    let (s, bs, f) := read s (spare + 1)
    (next bs f).run read s

/-- What ends a reading that gets nowhere. -/
def noProgress : Fault := .told "multiple Read calls return no data or error"

/-- Read to the end in at most so many reads, with buffers that depend on the octets so far. -/
def gather (spare : Bytes → Nat) : (reads : Nat) → (sofar : Bytes) → Consumer Stream
  | 0, sofar => .done { bytes := sofar, ending := .broken noProgress }
  | reads + 1, sofar => .ask (spare sofar) fun bs f =>
    match f with
    | none => gather spare reads (sofar ++ bs)
    | some f =>
      .done { bytes := sofar ++ bs, ending := if f = .signal .endOfInput then .clean else .broken f }

end Consumer

end DetectorStream
