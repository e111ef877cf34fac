import DetectorStream.Octets.LittleEndian

/-!
# Tables in a flat buffer

A table is a place in a buffer. What stands at a place is read through the table's list of field
offsets, which lies elsewhere in the buffer. Places are 32-bit numbers and wrap; a read that leaves
the buffer gives `none`. A buffer may be the beginning of longer memory: a number is then read from the
buffer only, but a text is a piece of the memory.

* `FlatBuffer.word?`: a number at a place.
* `FlatBuffer.Cursor`: a place that moves on through a buffer.
* `Table.field?`: the place of a field; zero-offset fields are absent.
* `Table.vector?`, `Table.words?`: what a field refers to.
* `Table.memory`, `Table.slice?`, `Table.text?`: a text, which may reach behind the buffer.
-/

namespace DetectorStream.FlatBuffer

/-- A place in a buffer, taken modulo the 32-bit numbers. -/
def wrap (n : Nat) : Nat := n % 0x100000000

/-- The number of `width` octets at `place`. -/
def word? (buf : Bytes) (width place : Nat) : Option Nat :=
  let w := (buf.drop place).take width
  if w.length < width then none else some (LittleEndian.get w)

/-- The place that the offset at `place` leads to. -/
def follow? (buf : Bytes) (place : Nat) : Option Nat :=
  (word? buf 4 place).map fun o => wrap (place + o)

/-! ## Moving through a buffer -/

/-- A place in a buffer, with the octets that stand from there on. -/
structure Cursor (buf : Bytes) where
  place : Nat
  rest : Bytes := buf.drop place
  rest_eq : rest = buf.drop place := by rfl

namespace Cursor

variable {buf : Bytes}

/-- The place `n` octets further on, which may wrap. -/
def advance (c : Cursor buf) (n : Nat) : Cursor buf :=
  if c.place + n < 0x100000000 then
    { place := c.place + n
      rest := c.rest.drop n
      rest_eq := by rw [c.rest_eq, List.drop_drop] }
  else { place := wrap (c.place + n) }

/-- The number of `width` octets at the place. -/
def word? (c : Cursor buf) (width : Nat) : Option Nat :=
  let w := c.rest.take width
  if w.length < width then none else some (LittleEndian.get w)

/-- Read `count` numbers of `width` octets each, one place after the other, onto the reversed list of
those read so far. -/
def wordsOnto? (width : Nat) : (count : Nat) → (acc : List Nat) → Cursor buf → Option (List Nat)
  | 0, acc, _ => some acc.reverse
  | n + 1, acc, c =>
    match c.word? width with
    | none => none
    | some w => wordsOnto? width n (w :: acc) (c.advance width)

end Cursor

/-! ## Tables -/

/-- A table at a place of a buffer. -/
structure Table where
  buffer : Bytes
  place : Nat
  /-- The octets of the memory that follow the buffer. -/
  behind : Bytes := []

namespace Table

/-- The memory that the buffer begins. -/
def memory (t : Table) : Bytes := t.buffer ++ t.behind

/-- The table that the offset at the start of a buffer leads to. -/
def root? (buf : Bytes) (behind : Bytes := []) : Option Table :=
  (word? buf 4 0).map fun p => { buffer := buf, place := p, behind := behind }

/-- The number of `width` octets at a place. -/
def word? (t : Table) (width place : Nat) : Option Nat := FlatBuffer.word? t.buffer width (wrap place)

/-- Where the list of field offsets lies: the offset to it is subtracted from the place of the
table. -/
def layout? (t : Table) : Option Nat :=
  (FlatBuffer.word? t.buffer 4 t.place).map fun o => wrap (t.place + 0x100000000 - o)

/-- The offset of field number `slot`, zero when the table does not have it. -/
def offset? (t : Table) (slot : Nat) : Option Nat :=
  match t.layout? with
  | none => none
  | some l =>
    match FlatBuffer.word? t.buffer 2 l with
    | none => none
    | some size =>
      if 4 + 2 * slot < size then FlatBuffer.word? t.buffer 2 (wrap (l + (4 + 2 * slot))) else some 0

/-- The place of field number `slot`: a failure, absent, or a place. -/
def field? (t : Table) (slot : Nat) : Option (Option Nat) :=
  (t.offset? slot).map fun o => if o = 0 then none else some (wrap (t.place + o))

/-- A number in field `slot`, or the default where the field is absent. -/
def number? (t : Table) (slot width default : Nat) : Option Nat :=
  match t.field? slot with
  | none => none
  | some none => some default
  | some (some p) => FlatBuffer.word? t.buffer width p

/-- A table in field `slot`. -/
def table? (t : Table) (slot : Nat) : Option (Option Table) :=
  match t.field? slot with
  | none => none
  | some none => some none
  | some (some p) => (follow? t.buffer p).map fun q => some { t with place := q }

/-- The length of the vector that the offset at `place` leads to, and where its elements start. -/
def vectorAt? (t : Table) (place : Nat) : Option (Nat × Nat) :=
  match follow? t.buffer place with
  | none => none
  | some v => (FlatBuffer.word? t.buffer 4 v).map fun n => (n, wrap (v + 4))

/-- A vector in field `slot`: its length and where its elements start. -/
def vector? (t : Table) (slot : Nat) : Option (Option (Nat × Nat)) :=
  match t.field? slot with
  | none => none
  | some none => some none
  | some (some p) => (t.vectorAt? p).map some

/-- The octets from `start` on, `n` of them. Where they end may wrap. They are bounded by the memory,
not by the buffer. -/
def slice? (t : Table) (start n : Nat) : Option Bytes :=
  let stop := wrap (start + n)
  if start ≤ stop ∧ stop ≤ t.memory.length then some ((t.memory.drop start).take (stop - start))
  else none

/-- A text in field `slot`. -/
def text? (t : Table) (slot : Nat) : Option (Option Text) :=
  match t.vector? slot with
  | none => none
  | some none => some none
  | some (some (n, start)) => (t.slice? start n).map some

/-- The elements of `width` octets each of a vector in field `slot`. -/
def words? (t : Table) (slot width : Nat) : Option (Option (List Nat)) :=
  match t.vector? slot with
  | none => none
  | some none => some none
  | some (some (n, start)) =>
    (Cursor.wordsOnto? width n [] { place := start : Cursor t.buffer }).map some

/-- Table number `i` of a vector of tables whose elements start at `start`. -/
def nth? (t : Table) (start i : Nat) : Option Table :=
  (follow? t.buffer (wrap (start + 4 * i))).map fun p => { t with place := p }

end Table

end DetectorStream.FlatBuffer
