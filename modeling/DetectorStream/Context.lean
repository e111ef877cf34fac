import DetectorStream.Fault.Basic

/-!
# Contexts

A context tells an operation whether it may go on. It is live, already cancelled, past its
deadline, or live with a deadline that is close.
-/

namespace DetectorStream

/-- The state of the context an operation runs in. -/
inductive Context
  | live
  | cancelled
  | expired
  /-- Live, with a deadline thirty milliseconds away. -/
  | soon
deriving DecidableEq, Repr

namespace Context

/-- How far away the deadline of a context with a close deadline is. -/
def soonNanos : Nat := 30000000

/-- Why the context forbids going on, when it does. -/
def fault? : Context → Option Fault
  | cancelled => some (.signal .cancelled)
  | expired => some (.signal .deadline)
  | live | soon => none

/-- What ends a wait that takes `nanos` nanoseconds in this context early, if anything. Who waits for no
time at all may go on in a cancelled context, and has to say when. -/
def interrupts (nanos : Nat) : Context → Option Fault
  | cancelled => some (.signal .cancelled)
  | expired => some (.signal .deadline)
  | soon => if soonNanos < nanos then some (.signal .deadline) else none
  | live => none

/-- The context after it has been cancelled; one that is past its deadline stays so. -/
def cancel : Context → Context
  | expired => expired
  | _ => cancelled

end Context

end DetectorStream
