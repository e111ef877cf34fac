import DetectorStream.ProcessVariable.Channel
import Mathlib.Data.List.ReduceOption

/-!
# Process variables in memory

In memory a field is an object, and a row of values is an array that the object refers to. A channel
publishes objects: whoever fetches a structure holds its fields, and what is set on one of them shows
wherever that field stands, also when it has been published for two variables. Callers hold slices of
arrays. A row is copied from a slice when it is set, and into a slice when it is read. Fields that make
no structure give none, and a caller who publishes it nevertheless publishes a variable without fields.

* `Memory`: the arrays, slices and fields there are, and what is published.
* `Memory.channel`: the channel of values that memory stands for.
* `Op`, `Reply`, `Memory.step`, `Memory.run`: what is done, and what comes of it.
-/

namespace DetectorStream.ProcessVariable

/-- A part of an array that a caller holds: so many elements from `start` on, with room for more. A
slice that has no array of its own is one without room of the first array. -/
structure Slice where
  array : Nat := 0
  start : Nat := 0
  length : Nat := 0
  capacity : Nat := 0

/-- What a field holds in memory: a value, or the array of a row. -/
inductive Content
  | value (v : Int64)
  | row (array : Nat)

/-- A field in memory. -/
structure Object where
  name : Text
  element : Element
  content : Content

namespace Object

/-- Set the value of a field that holds a single one. -/
def setValue (v : Int64) (x : Object) : Object :=
  match x.content with
  | .value _ => { x with content := .value v }
  | .row _ => x

/-- Let a field that holds a row refer to another array. -/
def setRow (array : Nat) (x : Object) : Object :=
  match x.content with
  | .value _ => x
  | .row _ => { x with content := .row array }

end Object

/-- The arrays there are, the slices that callers hold, the fields that were made, and those that are
published for each variable. -/
structure Memory where
  arrays : List (List UInt64) := [[]]
  slices : List Slice := []
  objects : List Object := []
  published : List (Text × List Nat) := []

/-- What is done in memory. Fields and slices are named by the order in which they came up. -/
inductive Op
  /-- Make a field of a single value. -/
  | single (name : Text) (element : Element) (value : Int64)
  /-- Make a field of a row, copied from a slice. -/
  | row (name : Text) (element : Element) (s : Nat)
  /-- Make an empty field of a kind. -/
  | make (name : Text) (kind type : Int)
  /-- Publish a structure of these fields, if they make one. -/
  | put (pv : Text) (fields : List (Option Nat))
  /-- Publish what comes of fields that make no structure. -/
  | blank (pv : Text)
  | get (ctx : Context) (pv : Text)
  | set (o : Nat) (v : Int64)
  | setRow (o s : Nat)
  | scalar (ctx : Context) (pv name : Text)
  /-- Read a row into a slice. -/
  | array (ctx : Context) (pv name : Text) (into : Nat)
  /-- A new array of a caller's, with room for more elements. -/
  | buffer (xs : List UInt64) (spare : Nat)
  /-- Another part of the array that a slice shows. -/
  | cut (s start stop : Nat)
  /-- Write through a slice. -/
  | write (s i : Nat) (x : UInt64)

/-- What an operation replies. -/
inductive Reply
  | done
  | made (o : Nat)
  | fields (os : List Nat)
  | value (v : Int64)
  | slice (s : Slice)
  | failed (f : Fault)
  /-- A failed read gives back the slice that it was given. -/
  | refused (s : Slice) (f : Fault)
  | crashed

namespace Memory

/-- The slice of a name. -/
def slice (m : Memory) (s : Nat) : Slice := m.slices[s]?.getD {}

/-- The elements of a slice. -/
def shown (m : Memory) (w : Slice) : List UInt64 :=
  ((m.arrays[w.array]?.getD []).drop w.start).take w.length

/-- The field that an object stands for. -/
def read (m : Memory) (x : Object) : Field :=
  match x.content with
  | .value v => .scalar x.name x.element v
  | .row a => .array x.name x.element (m.arrays[a]?.getD [])

/-- The field of a name in memory. -/
def field? (m : Memory) (o : Nat) : Option Field := m.objects[o]?.map m.read

/-- The structure that fields in memory make up. -/
def structureOf (m : Memory) (os : List Nat) : Structure := ⟨os.filterMap m.field?⟩

/-- The channel of values that memory stands for. -/
def channel (m : Memory) : Channel := ⟨m.published.map fun p => (p.1, m.structureOf p.2)⟩

/-- The field with a name among those of a structure. -/
def find? (m : Memory) (name : Text) (os : List Nat) : Option Nat :=
  os.find? fun o => (m.field? o).any (·.name == name)

/-- The field that stands at a place. -/
def standing (m : Memory) (pv name : Text) : Option Nat :=
  (m.published.lookup pv).bind (m.find? name)

/-! ### Operations -/

/-- A new array. -/
def grow (m : Memory) (xs : List UInt64) : Memory := { m with arrays := m.arrays ++ [xs] }

/-- Write to an array in place. -/
def change (m : Memory) (a : Nat) (f : List UInt64 → List UInt64) : Memory :=
  { m with arrays := m.arrays.modify a f }

/-- Hold one more slice. -/
def hold (m : Memory) (w : Slice) : Memory := { m with slices := m.slices ++ [w] }

/-- A new field; a row has an array of its own. -/
def add (m : Memory) : Field → Memory
  | .scalar name element v => { m with objects := m.objects ++ [⟨name, element, .value v⟩] }
  | .array name element vs =>
    { m.grow vs with objects := m.objects ++ [⟨name, element, .row m.arrays.length⟩] }

/-- Copy elements over those from `start` on. -/
def splice (start : Nat) (vs xs : List UInt64) : List UInt64 :=
  xs.take start ++ vs ++ xs.drop (start + vs.length)

/-- Copy elements into a slice, or into a new array if it has not the room for them. -/
def copyInto (m : Memory) (w : Slice) (vs : List UInt64) : Memory × Slice :=
  if w.capacity < vs.length then
    let fresh : Slice := ⟨m.arrays.length, 0, vs.length, vs.length⟩
    ((m.grow vs).hold fresh, fresh)
  else
    let resized := { w with length := vs.length }
    ((m.change w.array (splice w.start vs)).hold resized, resized)

/-- The field at a place, unless there is a reason not to read it. -/
def lookup (m : Memory) (ctx : Context) (pv name : Text) : Except Fault Field :=
  match serve m.published ctx pv with
  | .error f => .error f
  | .ok os =>
    match (m.find? name os).bind m.field? with
    | some f => .ok f
    | none => .error (Channel.missing pv name)

/-- Do one operation. -/
def step (m : Memory) : Op → Memory × Reply
  | .single name element v => (m.add (.scalar name element v), .made m.objects.length)
  | .row name element s =>
    (m.add (.array name element (m.shown (m.slice s))), .made m.objects.length)
  | .make name kind type =>
    match Field.make name kind type with
    | .error f => (m, .failed f)
    | .ok f => (m.add f, .made m.objects.length)
  | .put pv os =>
    match Structure.ofFields (os.map (·.bind m.field?)) with
    | .error f => (m, .failed f)
    | .ok _ => ({ m with published := publish m.published pv os.reduceOption }, .done)
  | .blank pv => ({ m with published := publish m.published pv [] }, .done)
  | .get ctx pv =>
    match serve m.published ctx pv with
    | .error f => (m, .failed f)
    | .ok os => (m, .fields os)
  | .set o v => ({ m with objects := m.objects.modify o (Object.setValue v) }, .done)
  | .setRow o s =>
    ({ m.grow (m.shown (m.slice s)) with
        objects := m.objects.modify o (Object.setRow m.arrays.length) }, .done)
  | .scalar ctx pv name =>
    match m.lookup ctx pv name with
    | .error f => (m, .failed f)
    | .ok g =>
      match g.single? with
      | none => (m, .failed (Channel.mismatch pv g .scalar))
      | some v => (m, .value v)
  | .array ctx pv name into =>
    match m.lookup ctx pv name with
    | .error f => (m, .refused (m.slice into) f)
    | .ok g =>
      match g.row? with
      | none => (m, .refused (m.slice into) (Channel.mismatch pv g .array))
      | some vs =>
        let (m, w) := m.copyInto (m.slice into) vs
        (m, .slice w)
  | .buffer xs spare =>
    let w : Slice := ⟨m.arrays.length, 0, xs.length, xs.length + spare⟩
    ((m.grow (xs ++ List.replicate spare 0)).hold w, .slice w)
  | .cut s start stop =>
    let w := m.slice s
    if start ≤ stop ∧ stop ≤ w.capacity then
      let part : Slice := ⟨w.array, w.start + start, stop - start, w.capacity - start⟩
      (m.hold part, .slice part)
    else (m, .crashed)
  | .write s i x =>
    let w := m.slice s
    if i < w.length then (m.change w.array (·.set (w.start + i) x), .done) else (m, .crashed)

/-- Do operations one after the other, whatever they reply. -/
def run (m : Memory) (ops : List Op) : Memory := ops.foldl (fun m op => (m.step op).1) m

end Memory

end DetectorStream.ProcessVariable
