import DetectorStream.Compression.Codec
import DetectorStream.FlatBuffer.Table
import DetectorStream.Source.Nev

/-!
# Arrow files and streams

A stream is a run of messages, each a table of metadata and a body of columns: first the schema, then
record batches. A file holds the same messages between magic numbers, with a footer that repeats the
schema and says where the record batches are.

* `Arrow.Schema.ofTable?`: the columns of a schema.
* `Arrow.columns?`: the columns of a record batch.
* `Arrow.decode`: the batch of a file or stream.
-/

namespace DetectorStream.Arrow

open FlatBuffer (Table)

/-! ## Schemas -/

/-- The type of a column: its name, how many buffers a column of it has and whether the first of
them marks missing values. -/
structure ColumnType where
  name : Text
  buffers : Nat

/-- A column of a schema, with the columns nested in it. -/
inductive Column
  | mk (name : Text) (type : ColumnType) (children : List Column)

/-- The name of a column. -/
def Column.name : Column → Text
  | mk n _ _ => n

/-- The type of a column. -/
def Column.type : Column → ColumnType
  | mk _ t _ => t

/-- The name of a type of numbers. -/
def integerName (bits : Nat) (signed : Bool) : Text :=
  (if signed then Text.ofString "int" else Text.ofString "uint") ++ Decimal.ofNat bits

/-- The type with the given number and description. -/
def columnType? (kind : Nat) (t : Table) : Option ColumnType :=
  match kind with
  | 1 => some ⟨"null", 0⟩
  | 2 => do
    let bits ← t.number? 0 4 0
    let signed ← t.number? 1 1 0
    if [8, 16, 32, 64].elem bits then some ⟨integerName bits (signed == 1), 2⟩ else none
  | 3 => do
    let precision ← t.number? 0 2 0
    match precision with
    | 0 => some ⟨"float16", 2⟩
    | 1 => some ⟨"float32", 2⟩
    | 2 => some ⟨"float64", 2⟩
    | _ => none
  | 4 => some ⟨"binary", 3⟩
  | 5 => some ⟨"utf8", 3⟩
  | 6 => some ⟨"bool", 2⟩
  | 7 => some ⟨"decimal", 2⟩
  | 8 => do
    let unit ← t.number? 0 2 1
    some ⟨if unit == 0 then "date32" else "date64", 2⟩
  | 9 => some ⟨"time", 2⟩
  | 10 => some ⟨"timestamp", 2⟩
  | 11 => some ⟨"interval", 2⟩
  | 12 => some ⟨"list", 2⟩
  | 13 => some ⟨"struct", 1⟩
  | 15 => some ⟨"fixed_size_binary", 2⟩
  | 16 => some ⟨"fixed_size_list", 1⟩
  | 17 => some ⟨"map", 2⟩
  | 18 => some ⟨"duration", 2⟩
  | 19 => some ⟨"large_binary", 3⟩
  | 20 => some ⟨"large_utf8", 3⟩
  | 21 => some ⟨"large_list", 2⟩
  | _ => none

/-- The tables of a vector in a field. -/
def tables? (t : Table) (slot : Nat) : Option (List Table) :=
  match t.vector? slot with
  | none => none
  | some none => some []
  | some (some (n, start)) => if t.buffer.length < n then none else (List.range n).mapM (t.nth? start)

/-- Read a column. The nesting of columns bounds `fuel`. -/
def column? : (fuel : Nat) → Table → Option Column
  | 0, _ => none
  | fuel + 1, t => do
    let name ← t.text? 0
    let kind ← t.number? 2 1 0
    let description ← t.table? 3
    let type ← columnType? kind (← description)
    let children ← tables? t 5
    let children ← children.mapM (column? fuel)
    pure (.mk (name.getD []) type children)

/-- The columns of a schema. -/
def schema? (t : Table) : Option (List Column) := do
  let cs ← tables? t 1
  cs.mapM (column? 64)

/-! ## Record batches -/

/-- A column that was read: its name and type, its length, how many values are missing, and the
octets of its values. -/
structure Loaded where
  name : Text
  type : ColumnType
  length : Int
  missing : Int
  validity : Bytes
  values : Bytes

/-- What is left of a record batch: descriptions of columns and of buffers. -/
structure Left where
  nodes : List (Int × Int)
  buffers : List (Int × Int)

/-- How buffers are packed: not at all, or by an algorithm. -/
abbrev Packing := Option Algorithm

/-- The octets of a buffer. A packed one starts with its length, minus one if it is not packed. -/
def buffer? (packing : Packing) (body : Bytes) (b : Int × Int) : Option Bytes :=
  if b.2 == 0 then some []
  else if b.1 < 0 || b.2 < 0 || (body.length : Int) < b.1 + b.2 then none
  else
    let raw := (body.drop b.1.toNat).take b.2.toNat
    match packing with
    | none => some raw
    | some alg =>
      if raw.length < 8 then none
      else
        let size := LittleEndian.int64 (LittleEndian.get (raw.take 8))
        if size == -1 then some (raw.drop 8)
        else
          match alg.expand { bytes := raw.drop 8 } with
          | .error _ => none
          | .ok s =>
            if size < 0 || (s.bytes.length : Int) < size.toInt then none
            else some (s.bytes.take size.toInt.toNat)

/-- Take the next buffer. -/
def Left.buffer? (packing : Packing) (body : Bytes) (l : Left) : Option (Bytes × Left) :=
  match l.buffers with
  | [] => none
  | b :: rest => (Arrow.buffer? packing body b).map fun bs => (bs, { l with buffers := rest })

/-- Drop the next buffer unread. -/
def Left.skip (l : Left) : Left := { l with buffers := l.buffers.drop 1 }

/-- Read the buffers of a column after the one that marks missing values; they are not read for an
empty column. -/
def dataBuffers (packing : Packing) (body : Bytes) (empty : Bool) : (n : Nat) → Left → List Bytes →
    Option (List Bytes × Left)
  | 0, l, acc => some (acc.reverse, l)
  | n + 1, l, acc =>
    if empty then dataBuffers packing body empty n l.skip ([] :: acc)
    else
      match l.buffer? packing body with
      | none => none
      | some (bs, l) => dataBuffers packing body empty n l (bs :: acc)

/-- Read the columns of a list with a reader for one. -/
def loadAll (load : Column → Left → Option (Loaded × Left)) : List Column → Left →
    Option (List Loaded × Left)
  | [], l => some ([], l)
  | c :: cs, l =>
    match load c l with
    | none => none
    | some (x, l) => (loadAll load cs l).map fun (xs, l) => (x :: xs, l)

/-- Read a column with the columns nested in it. The nesting bounds `fuel`. -/
def load? (packing : Packing) (body : Bytes) : (fuel : Nat) → Column → Left →
    Option (Loaded × Left)
  | 0, _, _ => none
  | fuel + 1, .mk name type children, l =>
    match l.nodes with
    | [] => none
    | (length, missing) :: nodes =>
      let l := { l with nodes := nodes }
      if type.buffers == 0 then some (⟨name, type, length, length, [], []⟩, l)
      else do
        let (validity, l) ←
          if missing == 0 then some ([], l.skip) else l.buffer? packing body
        let (data, l) ← dataBuffers packing body (length == 0) (type.buffers - 1) l []
        let (_, l) ← loadAll (load? packing body fuel) children l
        pure (⟨name, type, length, missing, validity, data.headD []⟩, l)

/-- Pairs of signed words. -/
def pairs (ws : List Nat) : List (Int × Int) :=
  match ws with
  | a :: b :: rest => ((LittleEndian.int64 a).toInt, (LittleEndian.int64 b).toInt) :: pairs rest
  | _ => []

/-- The pairs of words of a vector in a field. -/
def pairs? (t : Table) (slot : Nat) : Option (List (Int × Int)) :=
  match t.vector? slot with
  | none => none
  | some none => some []
  | some (some (n, start)) =>
    let rest := t.buffer.drop start
    if rest.length < 16 * n then none else some (pairs (LittleEndian.words 8 (2 * n) rest).1)

/-- How the buffers of a record batch are packed. -/
def packing? (t : Table) : Option Packing :=
  match t.table? 3 with
  | none => none
  | some none => some none
  | some (some c) =>
    match c.number? 0 1 0 with
    | some 0 => some (some .lz4)
    | some 1 => some (some .zstd)
    | _ => none

/-- The columns of a record batch. None may be shorter than the batch says. -/
def columns? (schema : List Column) (t : Table) (body : Bytes) : Option (List Loaded) := do
  let rows ← t.number? 0 8 0
  let nodes ← pairs? t 1
  let buffers ← pairs? t 2
  let packing ← packing? t
  let (cs, _) ← loadAll (load? packing body 64) schema ⟨nodes, buffers⟩
  if cs.any fun c => c.length < (LittleEndian.int64 rows).toInt then none
  pure cs

/-- How many values are missing; an unknown number is counted. -/
def Loaded.missingCount (c : Loaded) : Int :=
  if 0 ≤ c.missing then c.missing
  else
    let set := (List.range c.length.toNat).countP fun i =>
      ((c.validity.getD (i / 8) 0).toNat).testBit (i % 8)
    c.length - set

/-- The words of a column. -/
def Loaded.words? (c : Loaded) (width : Nat) : Option (List Nat) :=
  if c.length < 0 || (c.values.length : Int) < c.length * width then none
  else some (LittleEndian.words width c.length.toNat c.values).1

/-! ## Events -/

/-- A source that cannot be read. -/
def unreadable : Stop := Nev.malformed "arrow" .withheld

/-- A complaint about the contents. -/
def complaint (t : Text) : Stop := .fault (.report .malformedSource ("arrow " ++ t))

/-- The two columns of a record batch. `broken` is what becomes of columns that cannot be read. -/
def events (broken : Stop) (cs : List Loaded) : Except Stop Columns :=
  let find (n : Text) := cs.find? fun c => c.name == n
  let integers (c : Loaded) :=
    c.type.buffers == 2 && [Text.ofString "int32", Text.ofString "int64"].elem c.type.name
  if cs.any fun c => integers c && (c.words? (if c.type.name == "int32" then 4 else 8)).isNone then
    .error broken
  else
    match find "detector_id", find "timestamp" with
    | some ids, some ts =>
      if ids.type.name ≠ "int64" then
        .error (complaint ("column detector_id is " ++ ids.type.name ++ ", want int64"))
      else if ts.type.name ≠ "int32" then
        .error (complaint ("column timestamp is " ++ ts.type.name ++ ", want int32"))
      else if 0 < ids.missingCount || 0 < ts.missingCount then
        .error (complaint "event columns contain nulls")
      else
        match ids.words? 8, ts.words? 4 with
        | some is, some ts => .ok ⟨is.map LittleEndian.int64, ts.map LittleEndian.int32⟩
        | _, _ => .error broken
    | _, _ => .error (complaint "schema needs detector_id and timestamp columns")

/-- The columns of one batch after those of another. -/
def append (a b : Columns) : Columns := ⟨a.ids ++ b.ids, a.timestamps ++ b.timestamps⟩

/-- The events of a record batch whose metadata and body are given. -/
def batchEvents (broken : Stop) (schema : List Column) (m : Table) (body : Bytes) :
    Except Stop Columns :=
  match (m.table? 2).bind fun h => h.bind fun h => columns? schema h body with
  | none => .error broken
  | some cs => events broken cs

/-! ## Streams -/

/-- What comes next in a stream. -/
inductive Next
  /-- The stream ends here. -/
  | finished
  | broken
  | message (metadata : Table) (body rest : Bytes)

/-- Take `n` octets: none left at all is an end, too few are damage. -/
def take (n : Nat) (bs : Bytes) (k : Bytes → Bytes → Next) : Next :=
  let head := bs.take n
  if n == 0 then k [] bs
  else if head.isEmpty then .finished
  else if head.length < n then .broken
  else k head (bs.drop n)

/-- The message that starts with its length, which must not be negative. -/
def sized (size : Nat) (bs : Bytes) : Next :=
  if 0x80000000 ≤ size then .broken
  else
    take size bs fun metadata rest =>
      match Table.root? metadata with
      | none => .broken
      | some m =>
        match m.number? 3 8 0 with
        | none => .broken
        | some n =>
          if 0x8000000000000000 ≤ n then .broken
          else take n rest fun body rest => .message m body rest

/-- The next message. A zero length ends the stream; the mark before the length may be missing. -/
def next (bs : Bytes) : Next :=
  take 4 bs fun head rest =>
    let word := LittleEndian.get head
    if word == 0 then .finished
    else if word == 0xFFFFFFFF then
      take 4 rest fun head rest =>
        let size := LittleEndian.get head
        if size == 0 then .finished else sized size rest
    else sized word rest

/-- The number of a message's kind. -/
def kind? (m : Table) : Option Nat := m.number? 1 1 0

/-- Read the record batches of a stream. Every message takes octets, which bounds `fuel`. -/
def streamEvents (schema : List Column) : (fuel : Nat) → Bytes → Columns → Except Stop Columns
  | 0, _, acc => .ok acc
  | fuel + 1, bs, acc =>
    match next bs with
    | .finished => .ok acc
    | .broken => .error unreadable
    | .message m body rest =>
      if kind? m ≠ some 3 then .error unreadable
      else
        match batchEvents unreadable schema m body with
        | .error e => .error e
        | .ok c => streamEvents schema fuel rest (append acc c)

/-- Read a stream: the schema and the record batches. -/
def stream (bs : Bytes) : Except Stop Columns :=
  match next bs with
  | .message m _ rest =>
    if kind? m ≠ some 1 then .error unreadable
    else
      match (m.table? 2).bind fun h => h.bind schema? with
      | none => .error unreadable
      | some schema => streamEvents schema (bs.length + 1) rest .empty
  | _ => .error unreadable

/-! ## Files -/

/-- The magic number at both ends of a file. -/
def magic : Bytes := Text.ofString "ARROW1"

/-- Where a record batch lies in a file. -/
structure Block where
  offset : Int
  metadata : Int
  body : Int

/-- The blocks of record batches that a footer lists. -/
def blocks? (footer : Table) : Option (List Block) :=
  match footer.vector? 3 with
  | none => none
  | some none => some []
  | some (some (n, start)) =>
    let rest := footer.buffer.drop start
    if rest.length < 24 * n then none
    else some ((List.range n).map fun i =>
      let b := (rest.drop (24 * i)).take 24
      let ws := (LittleEndian.words 8 3 b).1
      ⟨(LittleEndian.int64 (ws.getD 0 0)).toInt, (LittleEndian.int32 (ws.getD 1 0)).toInt,
        (LittleEndian.int64 (ws.getD 2 0)).toInt⟩)

/-- The footer of a file. -/
def footer? (bs : Bytes) : Option Table :=
  let n := bs.length
  if n ≤ 16 || bs.drop (n - 6) ≠ magic then none
  else
    let size := LittleEndian.get ((bs.drop (n - 10)).take 4)
    if size == 0 || n < size + 16 then none else Table.root? ((bs.drop (n - 10 - size)).take size)

/-- The metadata and body of a block. -/
def message? (bs : Bytes) (b : Block) : Option (Table × Bytes) :=
  if b.offset < 0 || b.offset % 8 ≠ 0 || b.metadata % 8 ≠ 0 || b.body % 8 ≠ 0 || b.metadata < 8
    || b.body < 0 || (bs.length : Int) < b.offset + b.metadata + b.body then none
  else
    let t := bs.drop b.offset.toNat
    let metadata := t.take b.metadata.toNat
    let word := LittleEndian.get (metadata.take 4)
    let skipped := if word == 0 then 0 else if word == 0xFFFFFFFF then 8 else 4
    (Table.root? (metadata.drop skipped)).map fun m =>
      (m, (t.drop b.metadata.toNat).take b.body.toNat)

/-- Read record batches one by one. -/
def fileEvents (bs : Bytes) (schema : List Column) : List Block → Columns → Except Stop Columns
  | [], acc => .ok acc
  | b :: rest, acc =>
    match message? bs b with
    | none => .error unreadable
    | some (m, body) =>
      if kind? m ≠ some 3 then .error unreadable
      else
        match batchEvents .crash schema m body with
        | .error e => .error e
        | .ok c => fileEvents bs schema rest (append acc c)

/-- Read a file. -/
def file (bs : Bytes) : Except Stop Columns :=
  match footer? bs with
  | none => .error unreadable
  | some f =>
    match (f.table? 1).bind fun s => s.bind schema?, blocks? f with
    | some schema, some blocks => fileEvents bs schema blocks .empty
    | _, _ => .error unreadable

/-- The batch of a file or stream. -/
def decode (a : Allocator) (s : Stream) : Except Stop Batch :=
  if s.isDamaged then .error unreadable
  else
    match if Text.startsWith magic s.bytes then file s.bytes else stream s.bytes with
    | .error e => .error e
    | .ok c => Batch.ofColumns a c

end DetectorStream.Arrow
