import DetectorStream.Compression.Checksum
import DetectorStream.Compression.Zstd.Sequences
import DetectorStream.Octets.Stream

/-!
# Zstd frames

A file is a run of frames, some of which are to be skipped. A frame is a header, blocks up to the
last one, and a check of its text if the header says so.

* `Zstd.expand`: the stream of a file.
* `Zstd.write`: a frame of stored blocks.
-/

namespace DetectorStream.Zstd

/-- The magic number of a frame. -/
def magic : Nat := 0xFD2FB528

/-- The most octets of text in a block. -/
def blockMost : Nat := 131072

/-- What a header says. -/
structure Header where
  window : Nat
  /-- The length of the text, if given. -/
  size : Option Nat
  check : Bool

/-- Read a header. A text that needs a dictionary cannot be read. -/
def header? (bs : Bytes) : Option (Header × Bytes) :=
  match bs with
  | [] => none
  | head :: t => do
    let f := head.toNat
    let single := f / 32 % 2 == 1
    let windowBytes := if single then 0 else 1
    let dictBytes := [0, 1, 2, 4].getD (f % 4) 0
    let sizeBytes := match f / 64 with
      | 0 => if single then 1 else 0
      | 1 => 2
      | 2 => 4
      | _ => 8
    if f / 8 % 2 == 1 || t.length < windowBytes + dictBytes + sizeBytes then none
    let w := LittleEndian.get (t.take windowBytes)
    let t := t.drop windowBytes
    if LittleEndian.get (t.take dictBytes) ≠ 0 then none
    let t := t.drop dictBytes
    let n := LittleEndian.get (t.take sizeBytes) + (if f / 64 == 1 then 256 else 0)
    let size := if sizeBytes == 0 then none else some n
    let base := Nat.pow 2 (10 + w / 8)
    let window := if single then max n 1024 else base + base / 8 * (w % 8)
    pure (⟨window, size, f / 4 % 2 == 1⟩, t.drop sizeBytes)

/-- The state between two blocks of a frame. -/
structure State where
  out : Array UInt8 := #[]
  code : Option WeightedCode := none
  codes : SequenceCodes := {}
  recent : Recent := {}

/-- Read a coded block. -/
def codedBlock? (window : Nat) (body : Bytes) (s : State) : Option State := do
  let l ← Literals.read? s.code body
  if blockMost < l.literals.size then none
  let r ← Sequences.read? s.codes s.recent window l.literals.toList l.rest s.out
  if s.out.size + blockMost < r.out.size then none
  pure ⟨r.out, l.code, r.codes, r.recent⟩

/-- Read one block of the given kind and size. -/
def block? (window kind size : Nat) (bs : Bytes) (s : State) : Option (State × Bytes) :=
  let body := bs.take size
  if blockMost < size || window < size then none
  else
    match kind, bs with
    | 0, _ =>
      if body.length < size then none
      else some ({ s with out := body.foldl Array.push s.out }, bs.drop size)
    | 1, b :: t => some ({ s with out := s.out ++ Array.replicate size b }, t)
    | 2, _ =>
      if body.length < size then none
      else (codedBlock? window body s).map fun s => (s, bs.drop size)
    | _, _ => none

/-- Read blocks up to the last one: the state, and the octets after it unless there is damage. Every
block takes octets, which bounds `fuel`. -/
def blocks (h : Header) : (fuel : Nat) → Bytes → State → State × Option Bytes
  | 0, _, s => (s, none)
  | fuel + 1, bs, s =>
    if bs.length < 3 then (s, none)
    else
      let word := LittleEndian.get (bs.take 3)
      match block? h.window (word / 2 % 4) (word / 8) (bs.drop 3) s with
      | none => (s, none)
      | some (s', rest) =>
        if h.size.any (· < s'.out.size) then (s, none)
        else if word % 2 == 1 then (s', some rest)
        else blocks h fuel rest s'

/-- Past the check of a text. -/
def check? (h : Header) (text bs : Bytes) : Option Bytes :=
  if h.size.any (· ≠ text.length) then none
  else if !h.check then some bs
  else if 4 ≤ bs.length && LittleEndian.get (bs.take 4) == (Checksum.xxh64 text).toNat % 0x100000000 then
    some (bs.drop 4)
  else none

/-- Read frames onto the reversed texts of those read, in a file that ends like this. Every frame takes
octets, which bounds `fuel`. -/
def frames (ending : Ending) : (fuel : Nat) → Bytes → List Bytes → Stream
  | 0, _, acc => .damaged acc.reverse.flatten
  | fuel + 1, bs, acc =>
    if bs.isEmpty then { bytes := acc.reverse.flatten, ending := ending }
    else if bs.length < 4 then .damaged acc.reverse.flatten
    else
      let word := LittleEndian.get (bs.take 4)
      let rest := bs.drop 4
      if word / 16 == 0x184D2A5 then
        let size := LittleEndian.get (rest.take 4)
        if rest.length < 4 + size then .damaged acc.reverse.flatten
        else frames ending fuel (rest.drop (4 + size)) acc
      else if word ≠ magic then .damaged acc.reverse.flatten
      else
        match header? rest with
        | none => .damaged acc.reverse.flatten
        | some (h, rest) =>
          match blocks h (rest.length + 1) rest {} with
          | (s, none) => .damaged (s.out.toList :: acc).reverse.flatten
          | (s, some rest) =>
            let text := s.out.toList
            match check? h text rest with
            | none => .damaged (text :: acc).reverse.flatten
            | some rest => frames ending fuel rest (text :: acc)

/-- The stream of a file. -/
def expand (s : Stream) : Stream := frames s.ending (s.bytes.length + 1) s.bytes []

/-! ## Writing -/

/-- Stored blocks, the last of which says so; `fuel` is at least the length of the text. -/
def storeFrom : (fuel : Nat) → Bytes → Bytes
  | 0, _ => LittleEndian.put 3 1
  | fuel + 1, bs =>
    let head := bs.take 65536
    let rest := bs.drop 65536
    if rest.isEmpty then LittleEndian.put 3 (head.length * 8 + 1) ++ head
    else LittleEndian.put 3 (head.length * 8) ++ head ++ storeFrom fuel rest

/-- A frame of stored blocks; nothing for no text. -/
def write (text : Bytes) : Bytes :=
  if text.isEmpty then []
  else
    LittleEndian.put 4 magic ++ [0x04, 0x38] ++ storeFrom text.length text
      ++ LittleEndian.put 4 (Checksum.xxh64 text).toNat

end DetectorStream.Zstd
