import DetectorStream.Batch.Basic
import DetectorStream.Octets.LittleEndian
import DetectorStream.Octets.Stream

/-!
# The nev layout

A nev image is the magic `NEV1`, the event count as a 64-bit word, all detector ids as 64-bit words
and all timestamps as 32-bit words, everything little-endian and nothing after it.

* `Nev.image`: the image of a list of events.
* `Nev.write`: the image of a batch that has not been released.
* `Nev.decode`: the batch of an image.
-/

namespace DetectorStream.Nev

/-- The first four octets of every image. -/
def magic : Bytes := [0x4E, 0x45, 0x56, 0x31]

/-- The octets of a detector id. -/
def idBytes (e : Event) : Bytes := LittleEndian.put 8 e.detector.toUInt64.toNat

/-- The octets of a timestamp. -/
def timestampBytes (e : Event) : Bytes := LittleEndian.put 4 e.timestamp.toUInt32.toNat

/-- The image of a list of events. -/
def image (es : List Event) : Bytes :=
  magic ++ LittleEndian.put 8 es.length ++ es.flatMap idBytes ++ es.flatMap timestampBytes

/-- What comes before the columns: the magic and the count. -/
def opening (count : Nat) : Bytes := magic ++ LittleEndian.put 8 count

/-- The octets of two columns. -/
def columnBytes (ids : List Int64) (timestamps : List Int32) : Bytes :=
  ids.flatMap (fun i => LittleEndian.put 8 i.toUInt64.toNat) ++
    timestamps.flatMap fun t => LittleEndian.put 4 t.toUInt32.toNat

/-- The image of a batch. -/
def write : Batch → Except Fault Bytes
  | .live es => .ok (image es.toList)
  | .released => .error (.report .internal "cannot write a released batch")

/-- A fault met while reading a source of the named format. -/
def malformed (format : Text) (f : Fault) : Stop :=
  .fault (Fault.wrap .malformedSource ("invalid " ++ format ++ " source") f)

/-- Read one column of `count` words, up to `block` of them at a time. -/
def columnBy (block : Nat) (hb : 0 < block) (width count : Nat) (s : Stream) :
    Except Fault (List Nat × Stream) :=
  if count = 0 then .ok ([], s)
  else
    match s.readFull (min block count * width) with
    | .error f => .error f
    | .ok (bs, s) =>
      match columnBy block hb width (count - block) s with
      | .error f => .error f
      | .ok (rest, s) => .ok ((LittleEndian.words width (min block count) bs).1 ++ rest, s)
termination_by count
decreasing_by omega

/-- How many values are fetched at a time. -/
def blockValues : Nat := 8192

/-- Read one column of `count` words. -/
def column (width count : Nat) (s : Stream) : Except Fault (List Nat × Stream) :=
  columnBy blockValues (by decide) width count s

/-- Read the two columns. -/
def readColumns (count : Nat) (s : Stream) : Except Fault (Columns × Stream) :=
  match column 8 count s with
  | .error f => .error f
  | .ok (ids, s) =>
    match column 4 count s with
    | .error f => .error f
    | .ok (ts, s) => .ok (⟨ids.map LittleEndian.int64, ts.map LittleEndian.int32⟩, s)

/-- May an image that declares `count` events be read? -/
def grant (a : Allocator) (count : Nat) : Except Stop Unit :=
  if (0x7FFFFFFFFFFFFFFF) / eventSize < count then
    .error (.fault (.report .allocation ("nev header declares " ++ Decimal.ofNat count ++ " events")))
  else a.check (Int64.ofNat count)

/-- The magic and the declared count. -/
def header (s : Stream) : Except Stop (Nat × Stream) :=
  match s.readFull 4 with
  | .error f => .error (malformed "nev" f)
  | .ok (m, s) =>
    if m ≠ magic then
      .error (.fault (.report .malformedSource ("bad nev magic " ++ Text.quote m)))
    else
      match s.readFull 8 with
      | .error f => .error (malformed "nev" f)
      | .ok (c, s) => .ok (LittleEndian.get c, s)

/-- Why an image that begins with the octets `head` is refused for its count, if they tell. -/
def refusal? (a : Allocator) (head : Bytes) : Option Stop :=
  match header { bytes := head } with
  | .error _ => none
  | .ok (count, _) =>
    match grant a count with
    | .error e => some e
    | .ok () => none

/-- The columns of `count` events, with no octet after them. How the stream ends there is not
looked at. -/
def body (count : Nat) (s : Stream) : Except Stop Batch :=
  match readColumns count s with
  | .error f => .error (malformed "nev" f)
  | .ok (cols, s) =>
    if s.bytes.isEmpty then .ok (.live cols.events.toArray)
    else .error (.fault (.report .malformedSource "trailing data after nev payload"))

/-- The batch of an image. The declared count must be admitted before the columns are read. -/
def decode (a : Allocator) (s : Stream) : Except Stop Batch :=
  match header s with
  | .error e => .error e
  | .ok (count, s) =>
    match grant a count with
    | .error e => .error e
    | .ok () => body count s

end DetectorStream.Nev
