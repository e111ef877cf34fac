import DetectorStream.Batch.Basic

/-!
# Messages

A message is one chunk of events under a source name, with a running number and the time of its
pulse.

* `Message.check`: may the message be encoded?
-/

namespace DetectorStream

/-- A chunk of events to be sent. -/
structure Message where
  sourceName : Text := []
  id : UInt64 := 0
  pulseTime : UInt64 := 0
  columns : Columns := .empty
deriving DecidableEq, Repr

namespace Message

/-- How many events the message holds. -/
def size (m : Message) : Nat := m.columns.ids.length

/-- The most events of a message, so that its encoding stays below two gigabytes. -/
def maxEvents : Nat := (0x7FFFFFFF - 4096) / 12

/-- Why a message cannot be encoded, if so. -/
def refusal? (m : Message) : Option Fault :=
  let n := m.columns.ids.length
  if n ≠ m.columns.timestamps.length then
    some (.report .encoding ("detector id count " ++ Decimal.ofNat n
      ++ " does not match timestamp count " ++ Decimal.ofNat m.columns.timestamps.length))
  else if maxEvents < n then
    some (.report .encoding (Decimal.ofNat n ++ " events exceed the maximum of "
      ++ Decimal.ofNat maxEvents ++ " per message"))
  else none

end Message

end DetectorStream
