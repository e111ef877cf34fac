import DetectorStream.Duration

/-!
# Log entries

What a run says about itself while it goes on: a level, a message and named values. How entries are
written is another matter; operations only list the entries that they make, in order.

* `Log.Level.atLeast`: does a level reach another?
* `Log.Entry`: one entry, its values in the order in which they were attached.
-/

namespace DetectorStream.Log

/-- How grave an entry is, in rising order. -/
inductive Level
  | debug
  | info
  | warn
  | error
  | dpanic
  | panic
  | fatal
deriving DecidableEq, Repr

namespace Level

/-- All levels, in rising order. -/
def all : List Level := [debug, info, warn, error, dpanic, panic, fatal]

/-- The name of a level. -/
def name : Level → String
  | debug => "debug"
  | info => "info"
  | warn => "warn"
  | error => "error"
  | dpanic => "dpanic"
  | panic => "panic"
  | fatal => "fatal"

/-- The place of a level in the rising order. -/
def rank : Level → Nat
  | debug => 0
  | info => 1
  | warn => 2
  | error => 3
  | dpanic => 4
  | panic => 5
  | fatal => 6

/-- Is `l` at least as grave as `least`? -/
def atLeast (least l : Level) : Bool := least.rank ≤ l.rank

end Level

/-- A value attached to an entry. -/
inductive Value
  | text (t : Text)
  | number (n : Int)
  | flag (b : Bool)
  | duration (d : Duration)
  | real (f : Float)

/-- One entry. -/
structure Entry where
  level : Level
  message : Text
  fields : List (Text × Value) := []

/-- The entry with further values in front of its own. -/
def Entry.under (e : Entry) (fields : List (Text × Value)) : Entry :=
  { e with fields := fields ++ e.fields }

end DetectorStream.Log
