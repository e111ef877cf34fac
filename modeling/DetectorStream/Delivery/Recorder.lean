import DetectorStream.Delivery.Transmitter

/-!
# A transmitter for tests

It keeps every message that it takes, and can be made to fail one of the sends.

* `Recorder.send`: keep a message.
-/

namespace DetectorStream.Delivery

/-- What a recorder has seen. -/
structure Recorder where
  /-- The number of the send that fails, counted from one, and how. -/
  failAt : Int := 0
  fault : Option Fault := none
  calls : Nat := 0
  sent : List (Text × Bytes) := []
  closed : Bool := false

namespace Recorder

/-- Keep a message, in whatever context and also after closing. -/
def send : Transmitter Recorder := fun ctx topic message r =>
  let called := { r with calls := r.calls + 1 }
  match if (called.calls : Int) = r.failAt then r.fault else none with
  | some f => ⟨called, ctx, some f, []⟩
  | none => ⟨{ called with sent := r.sent ++ [(topic, message)] }, ctx, none, []⟩

/-- Close the recorder. -/
def close (r : Recorder) : Recorder := { r with closed := true }

end Recorder

end DetectorStream.Delivery
