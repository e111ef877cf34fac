import DetectorStream.Csv
import DetectorStream.Source.Nev

/-!
# Comma-separated sources

Rows of a detector id and a timestamp. White space before a field, empty lines and lines that start
with `#` are skipped. A failure of the source is met by the record that reaches it.

* `Csv.record`: the two fields of a row.
* `Csv.events`: the events of a source; a first row that names the detector column is a header.
* `Csv.decode`: the batch of a source.
-/

namespace DetectorStream.Csv

/-! ## Rows -/

/-- The lines that a stream delivers. At a broken end, the last one may be unfinished. -/
def lines (s : Stream) : List Bytes :=
  match s.ending with
  | .broken _ => linesOnto [] [] s.bytes
  | .clean => linesOf s.bytes

/-- Does a line hold no record? -/
def isSkipped (line : Bytes) : Bool := line == [0x0A] || line.head? == some 0x23

/-- Does the record that starts with the line `line` reach a broken end? It does if it ends in an
unfinished line, or if a quoted field of it does not end. -/
def isCutOff (ending : Ending) (size row : Nat) (line : Bytes) (more : List Bytes) : Bool :=
  ending != .clean &&
    match fields true row size ⟨row, 1, line, more⟩ with
    | .error e => e.problem == .openQuote
    | .ok (_, c) =>
      c.more.isEmpty && ((line :: more).getLast?.bind List.getLast?) != some 0x0A

/-- Read the record that starts with the line `line` on row `row`: its two fields, and the lines
after it. `size` is more than the number of octets left. -/
def record (size row : Nat) (line : Bytes) (more : List Bytes) :
    Except Complaint (Bytes × Bytes × Cursor) :=
  match fields true row size ⟨row, 1, line, more⟩ with
  | .error e => .error e
  | .ok ([a, b], c) => .ok (a, b, c)
  | .ok _ => .error ⟨row, row, 1, .fieldCount⟩

/-! ## Events -/

/-- A number in a field, or why it is none. -/
def number (bits : Nat) (contents : Bytes) : Except Fault Int :=
  let t := Text.trimSpace contents
  (Numeral.parseInt 10 bits t).mapError fun e => .told (Numeral.failure "ParseInt" t e)

/-- Is this the name of the detector column, in any case? -/
def isHeading (contents : Bytes) : Bool :=
  Text.toLowerAscii (Text.trimSpace contents) == "detector_id"

/-- The event of record number `n`; `none` for a header. -/
def event (n : Nat) (a b : Bytes) : Except Stop (Option Event) :=
  match number 64 a, number 32 b with
  | .ok id, .ok t => .ok (some ⟨Int64.ofInt id, Int32.ofInt t⟩)
  | x, y =>
    if n == 1 && isHeading a then .ok none
    else
      let fault (r : Except Fault Int) := match r with | .error f => some f | .ok _ => none
      match Fault.join? (fault x) (fault y) with
      | some f => .error (Nev.malformed ("csv (line " ++ Decimal.ofNat n ++ ")") f)
      | none => .ok none

/-- What comes of the events read so far where a stream ends. A failure that holds the end of the input
is taken for the end. -/
def atEnd (ending : Ending) (acc : Array Event) : Except Stop (Array Event) :=
  match ending with
  | .clean => .ok acc
  | .broken f =>
    if f.anySignal (· == .endOfInput) then .ok acc else .error (Nev.malformed "csv" f)

/-- Read the events of the lines from row `row` on, onto those read so far. Every turn takes at
least one line, which bounds `fuel`; `size` is more than the number of octets. -/
def eventsOnto (ending : Ending) (size : Nat) : (fuel : Nat) → (row n : Nat) → List Bytes → Array Event →
    Except Stop (Array Event)
  | 0, _, _, _, acc => atEnd ending acc
  | _ + 1, _, _, [], acc => atEnd ending acc
  | fuel + 1, row, n, line :: more, acc =>
    if isSkipped line then eventsOnto ending size fuel (row + 1) n more acc
    else if isCutOff ending size row line more then atEnd ending acc
    else
      match record size row line more with
      | .error c =>
        .error (Nev.malformed "csv" (.told c.message))
      | .ok (a, b, c) =>
        match event (n + 1) a b with
        | .error e => .error e
        | .ok e => eventsOnto ending size fuel (c.row + 1) (n + 1) c.more (e.elim acc acc.push)

/-- The events of a comma-separated source. -/
def events (s : Stream) : Except Stop (Array Event) :=
  let ls := lines s
  eventsOnto s.ending (s.bytes.length + 1) (ls.length + 1) 1 0 ls #[]

/-- The batch of a comma-separated source. -/
def decode (a : Allocator) (s : Stream) : Except Stop Batch :=
  match events s with
  | .error e => .error e
  | .ok es => Batch.ofEvents a es

end DetectorStream.Csv
