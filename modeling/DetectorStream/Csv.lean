import DetectorStream.Number.Decimal

/-!
# Comma-separated records

A record is a list of fields with commas between them. A field may be quoted; a quote inside a
quoted field is written twice, and a quoted field may run over several lines.

* `Csv.fields`: the fields of the record that starts on a line, and the lines after it.
* `Csv.first`: the first record of a text.
* `Csv.Complaint.message`: the wording of a malformed record.
-/

namespace DetectorStream.Csv

/-! ## Lines -/

/-- The lines of a text with their terminators, onto the reversed lines and the reversed line read
so far. A carriage return before a line feed is dropped. -/
def linesOnto (acc : List Bytes) (line : Bytes) : Bytes → List Bytes
  | [] => (if line.isEmpty then acc else line.reverse :: acc).reverse
  | 0x0A :: t =>
    let line := if line.head? == some 0x0D then line.tail else line
    linesOnto ((0x0A :: line).reverse :: acc) [] t
  | b :: t => linesOnto acc (b :: line) t

/-- The lines of a text. The last one may lack its terminator and then loses a carriage return. -/
def linesOf (t : Bytes) : List Bytes :=
  linesOnto [] [] (if t.getLast? == some 0x0D then t.dropLast else t)

/-! ## Records -/

/-- What is wrong with a record. -/
inductive Problem
  | bareQuote
  | strayQuote
  /-- A quoted field that is not closed. -/
  | openQuote
  | fieldCount
deriving DecidableEq, Repr

/-- A malformed record: where it starts, where the problem is, and what it is. -/
structure Complaint where
  start : Nat
  row : Nat
  column : Nat
  problem : Problem
deriving DecidableEq, Repr

/-- The wording of a complaint. -/
def Complaint.message (c : Complaint) : Text :=
  let place : Text := "parse error on line " ++ Decimal.ofNat c.row ++ ", column " ++ Decimal.ofNat c.column
  let place := if c.start == c.row then place else "record on line " ++ Decimal.ofNat c.start ++ "; " ++ place
  match c.problem with
  | .fieldCount => "record on line " ++ Decimal.ofNat c.row ++ ": wrong number of fields"
  | .bareQuote => place ++ ": bare \" in non-quoted-field"
  | .strayQuote | .openQuote => place ++ ": extraneous or missing \" in quoted-field"

/-- A place in the source: the row and column, the rest of the line and the lines after it. -/
structure Cursor where
  row : Nat
  column : Nat
  line : Bytes
  more : List Bytes

/-- A field that was read: its contents, whether another field follows, and where. -/
structure Field where
  contents : Bytes
  continues : Bool
  cursor : Cursor

/-- Read the rest of a quoted field of the record that starts on row `start`. -/
def quoted (start : Nat) (acc : Bytes) (row column : Nat) : Bytes → List Bytes →
    Except Complaint Field
  | [], [] => .error ⟨start, row, column, .openQuote⟩
  | [], next :: more => quoted start acc (row + 1) 1 next more
  | 0x22 :: 0x22 :: t, more => quoted start (0x22 :: acc) row (column + 2) t more
  | 0x22 :: 0x2C :: t, more => .ok ⟨acc.reverse, true, ⟨row, column + 2, t, more⟩⟩
  | 0x22 :: t, more =>
    if t.isEmpty || t == [0x0A] then .ok ⟨acc.reverse, false, ⟨row, column + 1, [], more⟩⟩
    else .error ⟨start, row, column, .strayQuote⟩
  | b :: t, more => quoted start (b :: acc) row (column + 1) t more
termination_by line more => (more.length, line.length)

/-- Read a field that is not quoted. -/
def bare (start : Nat) (c : Cursor) : Except Complaint Field :=
  let contents := c.line.takeWhile (· != 0x2C)
  let rest := c.line.drop contents.length
  let contents := if rest.isEmpty then Text.trimRight (· == 0x0A) contents else contents
  match contents.idxOf? 0x22 with
  | some j => .error ⟨start, c.row, c.column + j, .bareQuote⟩
  | none =>
    .ok ⟨contents, !rest.isEmpty,
      { c with line := rest.drop 1, column := c.column + contents.length + 1 }⟩

/-- Skip the white space before a field. -/
def skipSpace (c : Cursor) : Cursor :=
  let rest := Text.trimLeftSpace c.line
  let width := c.line.length - rest.length
  let feed := if rest.isEmpty && c.line.getLast? == some 0x0A then 1 else 0
  { c with line := rest, column := c.column + width - feed }

/-- Read one field; `trim` drops the white space before it. -/
def field (trim : Bool) (start : Nat) (c : Cursor) : Except Complaint Field :=
  let c := if trim then skipSpace c else c
  match c.line with
  | 0x22 :: t => quoted start [] c.row (c.column + 1) t c.more
  | _ => bare start c

/-- Read the fields of a record. Every field but the last takes at least one octet, which bounds
`fuel`. -/
def fields (trim : Bool) (start : Nat) : (fuel : Nat) → Cursor → Except Complaint (List Bytes × Cursor)
  | 0, c => .ok ([], c)
  | fuel + 1, c =>
    match field trim start c with
    | .error e => .error e
    | .ok f =>
      if f.continues then (fields trim start fuel f.cursor).map fun (fs, c) => (f.contents :: fs, c)
      else .ok ([f.contents], f.cursor)

/-- The first record of a text, empty lines passed over; `none` for a text without one. -/
def first (t : Bytes) : Except Complaint (Option (List Bytes)) :=
  let ls := linesOf t
  let blank := ls.takeWhile (· == [0x0A])
  match ls.drop blank.length with
  | [] => .ok none
  | line :: more =>
    let row := blank.length + 1
    (fields false row (t.length + 1) ⟨row, 1, line, more⟩).map fun r => some r.1

end DetectorStream.Csv
