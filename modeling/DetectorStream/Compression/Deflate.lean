import DetectorStream.Compression.PrefixCode
import DetectorStream.Octets.LittleEndian

/-!
# Deflate

A deflated text is a run of blocks, the last of which says so. A block is stored, or coded with
prefix codes for literals, match lengths and match distances that are either fixed or given at its
start.

* `Deflate.inflate`: the text and the octets after it; without those, the text is damaged after what
  was read of it.
* `Deflate.store`: a text as stored blocks.
-/

namespace DetectorStream.Deflate

/-- What was read, and the reader after it; no reader if the text is damaged there. -/
structure Progress where
  out : Array UInt8
  reader : Option BitReader

/-! ## The codes of a block -/

/-- The code for literals and lengths, and the code for distances. -/
structure Codes where
  literals : PrefixCode
  distances : PrefixCode

/-- The codes that need not be given. -/
def fixedCodes : Codes where
  literals := .ofLengths (List.replicate 144 8 ++ List.replicate 112 9 ++ List.replicate 24 7
    ++ List.replicate 8 8)
  distances := .ofLengths (List.replicate 32 5)

/-- The order in which the lengths of the length code are given. -/
def lengthOrder : List Nat := [16, 17, 18, 0, 8, 7, 9, 6, 10, 5, 11, 4, 12, 3, 13, 2, 14, 1, 15]

/-- `n` numbers of three bits. -/
def triples? : (n : Nat) → BitReader → Option (List Nat × BitReader)
  | 0, r => some ([], r)
  | n + 1, r =>
    match r.bits? 3 with
    | none => none
    | some (v, r) => (triples? n r).map fun (vs, r) => (v :: vs, r)

/-- Read `n` code lengths onto the reversed list of those read: a length, or a repetition. -/
def lengths? (code : PrefixCode) : (fuel n : Nat) → (acc : List Nat) → BitReader →
    Option (List Nat × BitReader)
  | _, 0, acc, r => some (acc.reverse, r)
  | 0, _ + 1, _, _ => none
  | fuel + 1, n + 1, acc, r =>
    match code.decode? r with
    | none => none
    | some (s, r) =>
      if s < 16 then lengths? code fuel n (s :: acc) r
      else
        let (width, least) := if s == 16 then (2, 3) else if s == 17 then (3, 3) else (7, 11)
        match r.bits? width with
        | none => none
        | some (v, r) =>
          let times := least + v
          let value := if s == 16 then acc.head? else some 0
          match value with
          | none => none
          | some value =>
            if n + 1 < times then none
            else lengths? code fuel (n + 1 - times) (List.replicate times value ++ acc) r

/-- Read the codes given at the start of a block. -/
def codes? (r : BitReader) : Option (Codes × BitReader) := do
  let (hlit, r) ← r.bits? 5
  let (hdist, r) ← r.bits? 5
  let (hclen, r) ← r.bits? 4
  if 29 < hlit || 29 < hdist then none
  let (ls, r) ← triples? (hclen + 4) r
  let given := (lengthOrder.take (hclen + 4)).zip ls
  let code ← PrefixCode.ofLengths? ((List.range 19).map fun i => (given.lookup i).getD 0)
  let (ls, r) ← lengths? code (hlit + hdist + 258) (hlit + hdist + 258) [] r
  let literals ← PrefixCode.ofLengths? (ls.take (hlit + 257))
  let distances ← PrefixCode.ofLengths? (ls.drop (hlit + 257))
  pure (⟨literals, distances⟩, r)

/-! ## Matches -/

/-- The length that a length symbol stands for: its base and how many bits are added. -/
def lengthBase (s : Nat) : Nat × Nat :=
  if s < 265 then (s - 254, 0)
  else if s == 285 then (258, 0)
  else
    let e := (s - 261) / 4
    (3 + (4 + (s - 261) % 4) * Nat.pow 2 e, e)

/-- The distance that a distance symbol stands for: its base and how many bits are added. -/
def distanceBase (s : Nat) : Nat × Nat :=
  if s < 4 then (s + 1, 0)
  else
    let e := s / 2 - 1
    (1 + (2 + s % 2) * Nat.pow 2 e, e)

/-- Read a base with its added bits. -/
def extended? (base : Nat × Nat) (r : BitReader) : Option (Nat × BitReader) :=
  (r.bits? base.2).map fun (v, r) => (base.1 + v, r)

/-- Read the rest of a match whose length symbol is `s`, with `written` octets before it. -/
def match? (c : Codes) (s written : Nat) (r : BitReader) : Option (Nat × Nat × BitReader) := do
  if 285 < s then none
  let (length, r) ← extended? (lengthBase s) r
  let (d, r) ← c.distances.decode? r
  if 29 < d then none
  let (distance, r) ← extended? (distanceBase d) r
  if written < distance then none
  pure (length, distance, r)

/-! ## Blocks -/

/-- Read coded symbols up to the end of the block. Every symbol takes at least one bit, which
bounds `fuel`. -/
def symbols (c : Codes) : (fuel : Nat) → BitReader → Array UInt8 → Progress
  | 0, _, out => ⟨out, none⟩
  | fuel + 1, r, out =>
    match c.literals.decode? r with
    | none => ⟨out, none⟩
    | some (s, r) =>
      if s < 256 then symbols c fuel r (out.push s.toUInt8)
      else if s == 256 then ⟨out, some r⟩
      else
        match match? c s out.size r with
        | none => ⟨out, none⟩
        | some (length, distance, r) => symbols c fuel r (copyBack distance length out)

/-- Read a stored block. -/
def stored (r : BitReader) (out : Array UInt8) : Progress :=
  match r.align.bytes with
  | a :: b :: c :: d :: t =>
    let n := LittleEndian.get [a, b]
    if n + LittleEndian.get [c, d] ≠ 65535 then ⟨out, none⟩
    else
      let head := t.take n
      let out := head.foldl Array.push out
      if head.length < n then ⟨out, none⟩ else ⟨out, some { bytes := t.drop n }⟩
  | _ => ⟨out, none⟩

/-- Read one block, whose first three bits say whether it is the last and what kind it is. -/
def block (r : BitReader) (out : Array UInt8) : Bool × Progress :=
  match r.bits? 3 with
  | none => (true, ⟨out, none⟩)
  | some (v, r) =>
    let last := v % 2 == 1
    match v / 2 with
    | 0 => (last, stored r out)
    | 1 => (last, symbols fixedCodes (r.size + 1) r out)
    | 2 =>
      match codes? r with
      | none => (true, ⟨out, none⟩)
      | some (c, r) => (last, symbols c (r.size + 1) r out)
    | _ => (true, ⟨out, none⟩)

/-- Read blocks up to the last. Every block takes at least three bits, which bounds `fuel`. -/
def blocks : (fuel : Nat) → BitReader → Array UInt8 → Progress
  | 0, _, out => ⟨out, none⟩
  | fuel + 1, r, out =>
    match block r out with
    | (_, ⟨out, none⟩) => ⟨out, none⟩
    | (true, p) => p
    | (false, ⟨out, some r⟩) => blocks fuel r out

/-- The text of a deflated text, and the octets after it. -/
def inflate (bytes : Bytes) : Array UInt8 × Option Bytes :=
  let p := blocks (8 * bytes.length + 1) { bytes := bytes } #[]
  (p.out, p.reader.map fun r => r.bytes)

/-! ## Writing -/

/-- The most octets that a stored block holds. -/
def storedMax : Nat := 65535

/-- A text as stored blocks; `fuel` is at least its length. -/
def storeFrom : (fuel : Nat) → Bytes → Bytes
  | 0, _ => [1, 0, 0, 0xFF, 0xFF]
  | fuel + 1, bs =>
    let head := bs.take storedMax
    let rest := bs.drop storedMax
    let size := LittleEndian.put 2 head.length ++ LittleEndian.put 2 (65535 - head.length)
    if rest.isEmpty then 1 :: size ++ head else 0 :: size ++ head ++ storeFrom fuel rest

/-- A text as stored blocks. -/
def store (bs : Bytes) : Bytes := storeFrom (bs.length + 1) bs

end DetectorStream.Deflate
