import DetectorStream.Fault.Basic

/-!
# Event batches

A **batch** is a fixed number of detector events, each a detector id with a timestamp. A batch is
live until it is released; from then on it is empty for good. Every batch is made through an
**allocator**, which refuses requests beyond its byte limit.

* `Allocator.check`: is a request for so many events admissible?
* `Batch.ofColumns`: a batch from parallel columns, which must have the same length.
* `Batch.slice`: the columns of a range of events.
* `Batch.amplify`: tiled copies of a batch, each shifted in time.

Indices and lengths are 64-bit words, and the end of a range is computed with wrap-around. An index
or range outside the batch is a crash, which is `none` here.
-/

namespace DetectorStream

/-- The payload octets of one event: a 64-bit id and a 32-bit timestamp. -/
def eventSize : Nat := 12

/-- One detector hit. -/
structure Event where
  detector : Int64
  timestamp : Int32
deriving DecidableEq, Repr

instance : Inhabited Event := ⟨⟨0, 0⟩⟩

/-- Parallel columns of detector ids and timestamps, not necessarily of the same length. -/
structure Columns where
  ids : List Int64
  timestamps : List Int32
deriving DecidableEq, Repr

namespace Columns

/-- No events. -/
def empty : Columns := ⟨[], []⟩

/-- The columns of a list of events. -/
def ofEvents (es : List Event) : Columns := ⟨es.map Event.detector, es.map Event.timestamp⟩

/-- The events of two columns; what one column has beyond the other is dropped. -/
def events (c : Columns) : List Event := List.zipWith Event.mk c.ids c.timestamps

/-- The columns of a list of events make up the list. -/
@[simp] theorem events_ofEvents (es : List Event) : (ofEvents es).events = es := by
  simp [events, ofEvents, List.zipWith_map, List.zipWith_self]

/-- Columns of the same length are those of their events. -/
theorem ofEvents_events {c : Columns} (h : c.ids.length = c.timestamps.length) :
    ofEvents c.events = c := by
  have hids : c.events.map Event.detector = c.ids :=
    List.ext_getElem (by simp [events, h]) fun i _ _ => by simp [events]
  have htimestamps : c.events.map Event.timestamp = c.timestamps :=
    List.ext_getElem (by simp [events, h]) fun i _ _ => by simp [events]
  unfold ofEvents
  rw [hids, htimestamps]

end Columns

/-! ## Allocation -/

/-- Grants batches of up to `limit` octets; a limit that is not positive is no limit. -/
structure Allocator where
  limit : Int64 := 0
deriving DecidableEq, Repr

namespace Allocator

/-- Grants everything that can be addressed. -/
def unlimited : Allocator := ⟨0⟩

/-- The largest count whose payload size is a 64-bit number. -/
def maxCount : Int := (0x7FFFFFFFFFFFFFFF) / 12

/-- The largest number of detector ids one column can address. -/
def maxColumn : Int := 0x200000000000

/-- The complaint about a count whose payload size is no 64-bit number. -/
def overflow (n : Int) : Fault :=
  .report .allocation ("event count " ++ Decimal.ofInt n ++ " overflows addressable storage")

/-- Why a request for `count` events is refused, if it is. -/
def refusal? (a : Allocator) (count : Int64) : Option Fault :=
  let n := count.toInt
  if n < 0 then
    some (.report .allocation ("negative event count " ++ Decimal.ofInt n))
  else if maxCount < n then some (overflow n)
  else if 0 < a.limit.toInt ∧ a.limit.toInt < n * eventSize then
    some ((Fault.report .allocation ("batch of " ++ Decimal.ofInt n ++ " events needs "
      ++ Decimal.ofInt (n * eventSize) ++ " bytes, limit is " ++ Decimal.ofInt a.limit.toInt)).withDetail
      "events" (.number n))
  else none

/-- Is a request for `count` events granted? An admissible count that no column can address is a
crash. -/
def check (a : Allocator) (count : Int64) : Except Stop Unit :=
  match a.refusal? count with
  | some f => .error (.fault f)
  | none => if maxColumn < count.toInt then .error .crash else .ok ()

/-- Is a request for as many events as are at hand granted? More than a word can count are too
many for any allocator. -/
def checkSize (a : Allocator) (n : Nat) : Except Stop Unit :=
  if 0x7FFFFFFFFFFFFFFF < n then .error (.fault (overflow n)) else a.check (Int64.ofNat n)

end Allocator

/-! ## Batches -/

/-- A fixed number of events, until it is released. -/
inductive Batch
  | live (events : Array Event)
  | released
deriving DecidableEq, Repr

namespace Batch

/-- The events of a batch; none once it is released. -/
def events : Batch → Array Event
  | live es => es
  | released => #[]

/-- How many events the batch holds. -/
def size (b : Batch) : Nat := b.events.size

/-- Has the batch been released? -/
def isReleased : Batch → Bool
  | live _ => false
  | released => true

/-- Drop the events. -/
def release (_ : Batch) : Batch := released

/-- The payload size in octets. -/
def sizeBytes (b : Batch) : Nat := b.size * eventSize

/-- All columns of the batch. -/
def columns (b : Batch) : Columns := Columns.ofEvents b.events.toList

/-- A batch of `count` zero events. -/
def new (a : Allocator) (count : Int64) : Except Stop Batch :=
  match a.check count with
  | .error s => .error s
  | .ok () => .ok (live (Array.replicate count.toInt.toNat ⟨0, 0⟩))

/-- A batch that holds the given events, if the allocator grants it. -/
def ofEvents (a : Allocator) (es : Array Event) : Except Stop Batch :=
  match a.checkSize es.size with
  | .error s => .error s
  | .ok () => .ok (live es)

/-- A batch from parallel columns. -/
def ofColumns (a : Allocator) (c : Columns) : Except Stop Batch :=
  if c.ids.length ≠ c.timestamps.length then
    .error (.fault (.report .malformedSource ("detector ID count " ++ Decimal.ofNat c.ids.length
      ++ " does not match timestamp count " ++ Decimal.ofNat c.timestamps.length)))
  else ofEvents a c.events.toArray

/-- The batch with event `i` replaced; `none` when there is no event `i`. -/
def set (b : Batch) (i : Int64) (e : Event) : Option Batch :=
  let n := i.toInt
  match b with
  | live es => if 0 ≤ n ∧ n < es.size then some (live (es.setIfInBounds n.toNat e)) else none
  | released => none

/-- Event `i`; `none` when there is none. -/
def event (b : Batch) (i : Int64) : Option Event :=
  if 0 ≤ i.toInt then b.events[i.toInt.toNat]? else none

/-- The events from `offset` up to the wrapped sum of `offset` and `length`; `none` when that is no
range of the batch. A released batch has no events to go out of range of. -/
def range (b : Batch) (offset length : Int64) : Option (Array Event) :=
  match b with
  | released => some #[]
  | live es =>
    let start := offset.toInt
    let stop := (offset + length).toInt
    if 0 ≤ start ∧ start ≤ stop ∧ stop ≤ es.size then
      some (es.extract start.toNat stop.toNat)
    else none

/-- The columns of a range of events. -/
def slice (b : Batch) (offset length : Int64) : Option Columns :=
  (b.range offset length).map fun es => Columns.ofEvents es.toList

end Batch

end DetectorStream
