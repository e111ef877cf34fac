import DetectorStream.Compression.Codec
import DetectorStream.Source.Avro.Schema
import DetectorStream.Source.Nev

/-!
# Avro container files

A container is a header with a schema, a codec and a sync mark, and blocks of data that each end in
the mark. Data are read as the schema says; every datum must be a record with a long detector id and
an int timestamp.

* `Avro.datum?`: one datum of a schema.
* `Avro.decode`: the batch of a container.
-/

namespace DetectorStream.Avro

/-! ## Data -/

/-- A datum. -/
inductive Datum
  | null
  | boolean (b : Bool)
  | int (n : Int32)
  | long (n : Int64)
  | float
  | double
  | bytes
  | string
  | array
  | record (fields : List (Text × Datum))

/-- How a complaint names the type of a datum. -/
def Datum.typeName : Datum → Text
  | null => "<nil>"
  | boolean _ => "bool"
  | int _ => "int32"
  | long _ => "int64"
  | float => "float32"
  | double => "float64"
  | bytes => "[]uint8"
  | string => "string"
  | array => "[]interface {}"
  | record _ => "map[string]interface {}"

/-- A number in groups of seven bits, the lowest first; bits beyond the 64th are dropped. -/
def group? (shift : Nat) (acc : UInt64) : Bytes → Option (UInt64 × Bytes)
  | [] => none
  | b :: t =>
    let acc := if shift < 64 then acc ||| ((b &&& 0x7F).toUInt64 <<< shift.toUInt64) else acc
    if b < 0x80 then some (acc, t) else group? (shift + 7) acc t

/-- A signed number: even codes stand for numbers from zero up, odd ones for those below. -/
def long? (bs : Bytes) : Option (Int64 × Bytes) :=
  (group? 0 0 bs).map fun (v, t) => ((v >>> 1).toInt64 ^^^ -(v &&& 1).toInt64, t)

/-- The most items or octets in one piece. -/
def pieceMost : Int := 0x7FFFFFFF

/-- A run of octets after its length. -/
def octets? (bs : Bytes) : Option (Bytes × Bytes) :=
  match long? bs with
  | none => none
  | some (n, t) =>
    let n := n.toInt
    if n < 0 || pieceMost < n || (t.length : Int) < n then none
    else some (t.take n.toNat, t.drop n.toNat)

/-- The count at the head of a block of items; a negative one is followed by the block's size. -/
def blockCount? (bs : Bytes) : Option (Nat × Bytes) :=
  match long? bs with
  | none => none
  | some (n, t) =>
    if n == Int64.minValue || pieceMost < n.toInt.natAbs then none
    else if n < 0 then (long? t).map fun (_, t) => (n.toInt.natAbs, t)
    else some (n.toInt.toNat, t)

/-- What reads a value off the front of a text. -/
abbrev Reader (α : Type) := Bytes → Option (α × Bytes)

/-- Read `n` values onto the reversed list of those read. -/
def times {α : Type} (read : Reader α) : (n : Nat) → List α → Reader (List α)
  | 0, acc, bs => some (acc, bs)
  | n + 1, acc, bs =>
    match read bs with
    | none => none
    | some (x, t) => times read n (x :: acc) t

/-- Read blocks of values up to an empty one, onto the reversed list of those read. Every block takes
octets, which bounds `fuel`. -/
def blocks {α : Type} (read : Reader α) : (fuel : Nat) → List α → Reader (List α)
  | 0, _, _ => none
  | fuel + 1, acc, bs =>
    match blockCount? bs with
    | none => none
    | some (0, t) => some (acc.reverse, t)
    | some (n, t) =>
      match times read n acc t with
      | none => none
      | some (acc, t) => blocks read fuel acc t

/-- A value after its key. -/
def keyed {α : Type} (read : Reader α) : Reader (Text × α) := fun bs =>
  match octets? bs with
  | none => none
  | some (k, t) => (read t).map fun (x, t) => ((k, x), t)

/-- Read the fields of a record in order. -/
def fieldsWith (read : Schema → Reader Datum) : List (Text × Schema) → Reader (List (Text × Datum))
  | [], bs => some ([], bs)
  | (n, s) :: rest, bs =>
    match read s bs with
    | none => none
    | some (d, t) => (fieldsWith read rest t).map fun (ds, t) => ((n, d) :: ds, t)

/-- The name under which a union holds a branch. -/
def branchName : Schema → Text
  | .named n => n
  | _ => []

/-- Read a datum. The nesting of schema and data bounds `fuel`. -/
def datum? (names : Names) : (fuel : Nat) → Schema → Reader Datum
  | 0, _, _ => none
  | fuel + 1, s, bs =>
    match s with
    | .null => some (.null, bs)
    | .boolean =>
      match bs with
      | b :: t => if b == 0 || b == 1 then some (.boolean (b == 1), t) else none
      | [] => none
    | .int => (long? bs).map fun (n, t) => (.int (Int32.ofInt n.toInt), t)
    | .long => (long? bs).map fun (n, t) => (.long n, t)
    | .float => if bs.length < 4 then none else some (.float, bs.drop 4)
    | .double => if bs.length < 8 then none else some (.double, bs.drop 8)
    | .bytes => (octets? bs).map fun (_, t) => (.bytes, t)
    | .string => (octets? bs).map fun (_, t) => (.string, t)
    | .fixed n => if bs.length < n then none else some (.bytes, bs.drop n)
    | .enum n =>
      match long? bs with
      | some (i, t) => if 0 ≤ i.toInt && i.toInt < n then some (.string, t) else none
      | none => none
    | .array item =>
      (blocks (datum? names fuel item) (bs.length + 1) [] bs).map fun (_, t) => (.array, t)
    | .map item =>
      match blocks (keyed (datum? names fuel item)) (bs.length + 1) [] bs with
      | none => none
      | some (ms, t) => if (ms.map Prod.fst).Nodup then some (.record ms, t) else none
    | .union branches =>
      match long? bs with
      | none => none
      | some (i, t) =>
        if i.toInt < 0 then none
        else
          match branches[i.toInt.toNat]? with
          | none => none
          | some s =>
            match datum? names fuel s t with
            | none => none
            | some (.null, t) => some (.null, t)
            | some (d, t) => some (.record [(branchName s, d)], t)
    | .record fields =>
      (fieldsWith (datum? names fuel) fields bs).map fun (ms, t) => (.record ms, t)
    | .named n =>
      match names.lookup n with
      | some s => datum? names fuel s bs
      | none => none

/-! ## Containers -/

/-- How the blocks of a container are packed. -/
inductive Packing
  | plain
  | deflate
  | snappy
deriving DecidableEq

/-- The header of a container. -/
structure Header where
  packing : Packing
  schema : Schema
  names : Names
  sync : Bytes

/-- The packing of a given name. -/
def packing? (name : Option Bytes) : Option Packing :=
  match name with
  | none => some .plain
  | some t =>
    if t == "null" then some .plain
    else if t == "deflate" then some .deflate
    else if t == "snappy" then some .snappy
    else none

/-- Read the header of a container. -/
def header? (bs : Bytes) : Option (Header × Bytes) := do
  if !Text.startsWith [0x4F, 0x62, 0x6A, 0x01] bs then none
  let bs := bs.drop 4
  let (entries, bs) ← blocks (keyed octets?) (bs.length + 1) [] bs
  if !(entries.map Prod.fst).Nodup then none
  let packing ← packing? (entries.lookup (Text.ofString "avro.codec"))
  let text ← entries.lookup (Text.ofString "avro.schema")
  let (schema, names) ← Schema.ofJson? text
  if bs.length < 16 then none
  pure (⟨packing, schema, names, bs.take 16⟩, bs.drop 16)

/-- Unpack a block. -/
def unpack? (p : Packing) (block : Bytes) : Option Bytes :=
  match p with
  | .plain => some block
  | .deflate =>
    match Deflate.inflate block with
    | (out, some _) => some out.toList
    | (_, none) => none
  | .snappy =>
    let n := block.length - 4
    if n == 0 then none
    else
      match Framed.unpack? (0x100000000) (block.take n) with
      | none => none
      | some text =>
        if (LittleEndian.get (block.drop n).reverse) == (Checksum.ieee text).toNat then some text
        else none

/-- The next block: how many data it holds, the data, and what follows. -/
def block? (h : Header) (bs : Bytes) : Option (Nat × Bytes × Bytes) := do
  let (n, t) ← long? bs
  if n.toInt ≤ 0 || pieceMost < n.toInt then none
  let (size, t) ← long? t
  if size.toInt ≤ 0 || pieceMost < size.toInt || (t.length : Int) < size.toInt then none
  let data ← unpack? h.packing (t.take size.toInt.toNat)
  let t := t.drop size.toInt.toNat
  if t.take 16 ≠ h.sync then none
  pure (n.toInt.toNat, data, t.drop 16)

/-! ## Events -/

/-- A container that cannot be read. -/
def unreadable : Stop := Nev.malformed "avro" .withheld

/-- A datum of the wrong shape. -/
def mismatch (what : Text) (d : Datum) (wanted : Text) : Stop :=
  .fault (.report .malformedSource ("avro " ++ what ++ " is " ++ d.typeName ++ ", want " ++ wanted))

/-- The event of a datum. -/
def event (d : Datum) : Except Stop Event :=
  match d with
  | .record ms =>
    match (ms.lookup (Text.ofString "detector_id")).getD .null with
    | .long id =>
      match (ms.lookup (Text.ofString "timestamp")).getD .null with
      | .int t => .ok ⟨id, t⟩
      | d => .error (mismatch "field timestamp" d "int")
    | d => .error (mismatch "field detector_id" d "long")
  | d => .error (mismatch "datum" d "record")

/-- Read `n` events of a block, which must take all of it. -/
def events (h : Header) : (n : Nat) → Bytes → Array Event → Except Stop (Array Event)
  | 0, bs, acc => if bs.isEmpty then .ok acc else .error unreadable
  | n + 1, bs, acc =>
    match datum? h.names (bs.length + 1000) h.schema bs with
    | none => .error unreadable
    | some (d, t) =>
      match event d with
      | .error e => .error e
      | .ok e => events h n t (acc.push e)

/-- What comes of the events read so far where a stream ends. -/
def atEnd (ending : Ending) (acc : Array Event) : Except Stop (Array Event) :=
  if ending == .clean then .ok acc else .error unreadable

/-- Read the events of all blocks. The container ends where the count of a block cannot be read for
lack of octets. Every block takes octets, which bounds `fuel`. -/
def allEvents (h : Header) (ending : Ending) : (fuel : Nat) → Bytes → Array Event →
    Except Stop (Array Event)
  | 0, _, acc => atEnd ending acc
  | fuel + 1, bs, acc =>
    if (long? bs).isNone then atEnd ending acc
    else
      match block? h bs with
      | none => .error unreadable
      | some (n, data, rest) =>
        match events h n data acc with
        | .error e => .error e
        | .ok acc => allEvents h ending fuel rest acc

/-- The batch of a container. -/
def decode (a : Allocator) (s : Stream) : Except Stop Batch :=
  match header? s.bytes with
  | none => .error unreadable
  | some (h, rest) =>
    match allEvents h s.ending (s.bytes.length + 1) rest #[] with
    | .error e => .error e
    | .ok es => Batch.ofEvents a es

end DetectorStream.Avro
