import DetectorStream.Compression.Zstd.Entropy
import DetectorStream.Octets.LittleEndian

/-!
# Literals of a zstd block

The octets that sequences copy from: as they are, one octet repeated, or coded with a prefix code
whose weights come first or were given by an earlier block.

* `Literals.read?`: the literals of a block, the code in force after it, and the octets after them.
-/

namespace DetectorStream.Zstd

/-! ## The code -/

/-- A prefix code as a table: for every text of `log` bits, its first symbol and how many bits that
takes. -/
structure WeightedCode where
  log : Nat
  table : Array (UInt8 × Nat)

namespace WeightedCode

/-- Decode weights with two states in turn until the bits run out. Every round but those of states
that need no bits takes bits; `fuel` bounds the symbols. -/
def weightsOnto (t : StateTable) : (fuel : Nat) → (one two : Nat) → List Bool → List Nat →
    Option (List Nat)
  | 0, _, _, _, _ => none
  | fuel + 1, one, two, bits, acc =>
    let e := t.entry one
    if bits.isEmpty && 0 < e.bits then
      some ((t.entry two).symbol :: e.symbol :: acc).reverse
    else
      match take? e.bits bits with
      | none => none
      | some (v, bits) => weightsOnto t fuel two (e.base + v) bits (e.symbol :: acc)

/-- Weights that are themselves coded. -/
def codedWeights? (bs : Bytes) : Option (List Nat) := do
  let (log, counts, rest) ← counts? 6 256 bs
  let t := StateTable.ofCounts log counts
  let bits ← backward? rest
  let (one, bits) ← take? log bits
  let (two, bits) ← take? log bits
  weightsOnto t 256 one two bits []

/-- Weights of four bits each. -/
def plainWeights (n : Nat) (bs : Bytes) : List Nat :=
  (bs.flatMap fun b => [b.toNat / 16, b.toNat % 16]).take n

/-- The code of the given weights. The weight of the last symbol is what is missing. -/
def ofWeights? (ws : List Nat) : Option WeightedCode :=
  let share (w : Nat) := if w == 0 then 0 else Nat.pow 2 (w - 1)
  let sum := ws.foldl (fun sum w => sum + share w) 0
  let log := Nat.log2 sum + 1
  let missing := Nat.pow 2 log - sum
  let last := Nat.log2 missing + 1
  if sum == 0 || 11 < log || missing ≠ Nat.pow 2 (last - 1) || ws.any (11 < ·) || 255 < ws.length then none
  else
    let all := ws ++ [last]
    let rows := (List.range log).flatMap fun i =>
      (all.zipIdx.filter fun p => p.1 == i + 1).flatMap fun (w, s) =>
        List.replicate (Nat.pow 2 (w - 1)) (s.toUInt8, log + 1 - w)
    some ⟨log, rows.toArray⟩

/-- Read the description of a code. -/
def read? (bs : Bytes) : Option (WeightedCode × Bytes) :=
  match bs with
  | [] => none
  | head :: t =>
    let n := head.toNat
    let size := if n < 128 then n else (n - 126) / 2
    let body := t.take size
    if body.length < size then none
    else
      let ws := if n < 128 then codedWeights? body else some (plainWeights (n - 127) body)
      (ws.bind ofWeights?).map fun c => (c, t.drop size)

/-- Decode `n` symbols, which must take all bits. -/
def symbols (c : WeightedCode) : (n : Nat) → List Bool → Array UInt8 → Option (Array UInt8)
  | 0, bits, out => if bits.isEmpty then some out else none
  | n + 1, bits, out =>
    let head := bits.take c.log
    let index := bitsValue head * Nat.pow 2 (c.log - head.length)
    let (s, width) := c.table.getD index (0, 0)
    if head.length < width || width == 0 then none else symbols c n (bits.drop width) (out.push s)

/-- Decode one text of `n` symbols. -/
def text? (c : WeightedCode) (n : Nat) (bs : Bytes) (out : Array UInt8) : Option (Array UInt8) :=
  match backward? bs with
  | none => none
  | some bits => c.symbols n bits out

/-- Decode four texts, the sizes of the first three of which come first. -/
def four? (c : WeightedCode) (n : Nat) (bs : Bytes) : Option (Array UInt8) := do
  let each := (n + 3) / 4
  if bs.length < 10 || n < 3 * each then none
  let a := LittleEndian.get (bs.take 2)
  let b := LittleEndian.get ((bs.drop 2).take 2)
  let d := LittleEndian.get ((bs.drop 4).take 2)
  let t := bs.drop 6
  if t.length < a + b + d then none
  let out ← c.text? each (t.take a) #[]
  let out ← c.text? each ((t.drop a).take b) out
  let out ← c.text? each ((t.drop (a + b)).take d) out
  c.text? (n - 3 * each) (t.drop (a + b + d)) out

end WeightedCode

/-! ## The section -/

namespace Literals

/-- What was read: the literals, the code in force, and the octets after the section. -/
structure Result where
  literals : Array UInt8
  code : Option WeightedCode
  rest : Bytes

/-- Literals that are not coded: one octet repeated, or as they are. -/
def plain? (repeated : Bool) (size : Nat) (code : Option WeightedCode) (bs : Bytes) : Option Result :=
  if repeated then
    match bs with
    | b :: t => some ⟨Array.replicate size b, code, t⟩
    | [] => none
  else
    let head := bs.take size
    if head.length < size then none else some ⟨head.toArray, code, bs.drop size⟩

/-- Literals that are coded, with a new code or the one in force. -/
def coded? (fresh single : Bool) (size packed : Nat) (code : Option WeightedCode) (bs : Bytes) :
    Option Result :=
  let body := bs.take packed
  if body.length < packed then none
  else
    match if fresh then WeightedCode.read? body else code.map fun c => (c, body) with
    | none => none
    | some (c, body) =>
      (if single then c.text? size body #[] else c.four? size body).map fun out =>
        ⟨out, some c, bs.drop packed⟩

/-- Read the literals of a block. -/
def read? (code : Option WeightedCode) (bs : Bytes) : Option Result :=
  match bs with
  | [] => none
  | head :: _ =>
    let kind := head.toNat % 4
    let format := head.toNat / 4 % 4
    if kind < 2 then
      let width := if format == 1 then 2 else if format == 3 then 3 else 1
      if bs.length < width then none
      else
        let n := LittleEndian.get (bs.take width)
        plain? (kind == 1) (if width == 1 then n / 8 else n / 16) code (bs.drop width)
    else
      let width := if format < 2 then 3 else format + 2
      let bits := if format < 2 then 10 else if format == 2 then 14 else 18
      if bs.length < width then none
      else
        let n := LittleEndian.get (bs.take width) / 16
        coded? (kind == 2) (format == 0) (n % Nat.pow 2 bits) (n / Nat.pow 2 bits) code (bs.drop width)

end Literals

end DetectorStream.Zstd
