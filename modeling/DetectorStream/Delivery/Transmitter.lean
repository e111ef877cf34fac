import DetectorStream.Context
import DetectorStream.Log.Entry

/-!
# Transmitters

A transmitter delivers encoded messages to a topic, one at a time. What it does is a function of its
state, so that whole histories of sends can be followed. While a message is on its way the context
of the caller may be cancelled from outside; the outcome of a send therefore tells in which context
the caller goes on.

* `Delivery.Transmitter`: how a message is sent.
* `Delivery.Outcome`: what one send did.
* `Delivery.Transmitter.silent`: a transmitter that makes no log entries.
-/

namespace DetectorStream.Delivery

/-- What one send did. -/
structure Outcome (σ : Type) where
  state : σ
  /-- The context of the caller afterwards. -/
  context : Context
  /-- Why the message was not delivered, if so. -/
  fault : Option Fault
  entries : List Log.Entry := []

/-- Sends octets to a topic, in a context and from a state. -/
abbrev Transmitter (σ : Type) := Context → Text → Bytes → σ → Outcome σ

/-- The same transmitter without its log entries. -/
def Transmitter.silent {σ : Type} (t : Transmitter σ) : Transmitter σ :=
  fun ctx topic bs s => { t ctx topic bs s with entries := [] }

/-- The fault of a send in a context that forbids going on. -/
def cancelled? (ctx : Context) : Option Fault :=
  ctx.fault?.map (Fault.wrap .cancelled "send cancelled")

end DetectorStream.Delivery
