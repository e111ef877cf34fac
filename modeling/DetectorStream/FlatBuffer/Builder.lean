import DetectorStream.Octets.LittleEndian

/-!
# Building a flat buffer

A flat buffer is built from its end towards its start, so that everything is there before something
refers to it. A place is told by the number of octets from there to the end. Before a number is
written the buffer is filled up, so that the number lies at a multiple of its size from the end; when
the buffer is finished it is filled up to a multiple of the largest such size, and the places are
multiples from the start too.

* `Builder.prepare`: fill up before something is written.
* `Builder.word`, `Builder.reference`, `Builder.text`, `Builder.words`: what can be written.
* `TableBuilder`: a table, field by field; `TableBuilder.close` writes the list of its offsets.
* `Builder.finish`: the place of the table at the start of the buffer.
* `reach`: how large the memory of a buffer can grow.
-/

namespace DetectorStream.FlatBuffer

open LittleEndian (put)

/-- How many octets fill up `n` octets to a multiple of `size`. -/
def padding (size n : Nat) : Nat := (size - n % size) % size

/-- Octets that fill up. -/
def zeros (n : Nat) : Bytes := List.replicate n 0

/-- How large the memory of a buffer can grow that has `capacity` octets at first: it is doubled when
it is too small, unless it has a gigabyte already. -/
def reach (capacity : Nat) : Nat :=
  if 0x40000000 ≤ capacity then capacity else reach (max 1 (2 * capacity))
termination_by 0x40000000 - capacity

/-- A buffer that is being built. -/
structure Builder where
  /-- The octets from the last one that was written to the first. -/
  octets : Bytes := []
  /-- How many there are. -/
  size : Nat := 0
  size_eq : size = octets.length := by rfl
  /-- The largest size at a multiple of which something has to lie. -/
  alignment : Nat := 1
  /-- The most octets that there had to be room for. The memory has to be larger than that. -/
  room : Nat := 0

namespace Builder

/-- Write octets. -/
def push (b : Builder) (bs : Bytes) : Builder :=
  { b with
    octets := bs ++ b.octets
    size := bs.length + b.size
    size_eq := by rw [List.length_append, b.size_eq] }

/-- Fill up so that something lies at a multiple of `width` once `extra` octets are written, and make
room for it. -/
def prepare (b : Builder) (width extra : Nat) : Builder :=
  let fill := padding width (b.size + extra)
  { b.push (zeros fill) with
    alignment := max b.alignment width
    room := max b.room (b.size + fill + width + extra) }

/-- Write a number of `width` octets. -/
def word (b : Builder) (width n : Nat) : Builder := (b.prepare width 0).push (put width n)

/-- Refer to a place: write the distance to it. -/
def reference (b : Builder) (place : Nat) : Builder :=
  let b := b.prepare 4 0
  b.push (put 4 (b.size + 4 - place))

/-- Write a text: its length, the text and a zero. -/
def text (b : Builder) (t : Text) : Builder :=
  (((b.prepare 4 (t.length + 1)).push [0]).push t).push (put 4 t.length)

/-- Write a run of numbers of `width` octets each behind its length, the last number first. -/
def words (b : Builder) (width : Nat) (ns : List Nat) : Builder :=
  let extra := width * ns.length
  let b := (b.prepare 4 extra).prepare width extra
  (ns.foldr (fun n b => b.word width n) b).push (put 4 ns.length)

/-- Write the place of a table and the tag of the format, with which a buffer starts. -/
def finish (b : Builder) (root : Nat) (tag : Bytes) : Builder :=
  let b := (b.prepare b.alignment (4 + tag.length)).push tag
  (b.prepare b.alignment 4).reference root

end Builder

/-- A table that is being written. -/
structure TableBuilder where
  buffer : Builder
  /-- Where the table ends. -/
  start : Nat
  /-- Where each field lies; zero for a field that is left out. -/
  slots : List Nat

/-- Begin a table with `count` fields. -/
def Builder.table (b : Builder) (count : Nat) : TableBuilder := ⟨b, b.size, List.replicate count 0⟩

namespace TableBuilder

/-- Take note of the field that was written last. -/
def note (t : TableBuilder) (slot : Nat) (b : Builder) : TableBuilder :=
  { t with buffer := b, slots := t.slots.set slot b.size }

/-- Write a number in a field, unless it is the default. -/
def number (t : TableBuilder) (slot width n default : Nat) : TableBuilder :=
  if n = default then t else t.note slot (t.buffer.word width n)

/-- Refer to a place in a field; the place zero is none. -/
def reference (t : TableBuilder) (slot place : Nat) : TableBuilder :=
  if place = 0 then t else t.note slot (t.buffer.reference place)

/-- The list of field offsets of a table that starts at `place`: its own size, the size of the table,
and the offset of each field, zero for one that is left out. Fields at the end that are left out are
not listed. -/
def offsets (t : TableBuilder) (place : Nat) : List Nat :=
  let slots := (t.slots.reverse.dropWhile (· == 0)).reverse
  (4 + 2 * slots.length) :: (place - t.start) :: slots.map fun s => if s = 0 then 0 else place - s

/-- End a table: write how far the list of field offsets is in front of it, and the list. Gives the
place of the table too. -/
def close (t : TableBuilder) : Builder × Nat :=
  let b := t.buffer.prepare 4 0
  let place := b.size + 4
  let list := t.offsets place
  (list.foldr (fun o b => b.word 2 o) (b.push (put 4 (2 * list.length))), place)

end TableBuilder

end DetectorStream.FlatBuffer
