import DetectorStream.Compression.Zstd.Literals

/-!
# Sequences of a zstd block

A sequence copies some literals and then repeats text at a distance. The three numbers of a sequence
are coded with three state codes; small distances name one of the last three.

* `Sequences.read?`: apply the sequences of a block to the text before it.
-/

namespace DetectorStream.Zstd

/-- The codes in force for the three numbers of a sequence. -/
structure SequenceCodes where
  literals : Option StateTable := none
  distances : Option StateTable := none
  lengths : Option StateTable := none

/-- The last three distances, the latest first. -/
structure Recent where
  first : Nat := 1
  second : Nat := 4
  third : Nat := 8

namespace Sequences

/-! ## Codes -/

/-- The code of literal counts that need not be given. -/
def defaultLiterals : StateTable := .ofCounts 6
  [4, 3, 2, 2, 2, 2, 2, 2, 2, 2, 2, 2, 2, 1, 1, 1, 2, 2, 2, 2, 2, 2, 2, 2, 2, 3, 2, 1, 1, 1, 1, 1,
    -1, -1, -1, -1]

/-- The code of match lengths that need not be given. -/
def defaultLengths : StateTable := .ofCounts 6
  [1, 4, 3, 2, 2, 2, 2, 2, 2, 1, 1, 1, 1, 1, 1, 1, 1, 1, 1, 1, 1, 1, 1, 1, 1, 1, 1, 1, 1, 1, 1, 1,
    1, 1, 1, 1, 1, 1, 1, 1, 1, 1, 1, 1, 1, 1, -1, -1, -1, -1, -1, -1, -1]

/-- The code of distances that need not be given. -/
def defaultDistances : StateTable := .ofCounts 5
  [1, 1, 1, 1, 1, 1, 2, 2, 2, 1, 1, 1, 1, 1, 1, 1, 1, 1, 1, 1, 1, 1, 1, 1, -1, -1, -1, -1, -1]

/-- Read a code: the default, one symbol, given here, or the one in force. -/
def code? (mode maxLog symbols : Nat) (default : StateTable) (old : Option StateTable)
    (bs : Bytes) : Option (StateTable × Bytes) :=
  match mode with
  | 0 => some (default, bs)
  | 1 =>
    match bs with
    | b :: t => if b.toNat < symbols then some (.constant b.toNat, t) else none
    | [] => none
  | 2 => (counts? maxLog symbols bs).map fun (log, cs, t) => (.ofCounts log cs, t)
  | _ => old.map fun t => (t, bs)

/-- The bases and added bits of literal counts from sixteen on. -/
def literalBases : List (Nat × Nat) :=
  [(16, 1), (18, 1), (20, 1), (22, 1), (24, 2), (28, 2), (32, 3), (40, 3), (48, 4), (64, 6),
    (128, 7), (256, 8), (512, 9), (1024, 10), (2048, 11), (4096, 12), (8192, 13), (16384, 14),
    (32768, 15), (65536, 16)]

/-- The base of a literal count and how many bits are added. -/
def literalBase (s : Nat) : Nat × Nat := if s < 16 then (s, 0) else literalBases.getD (s - 16) (0, 0)

/-- The bases and added bits of match lengths from the 33rd symbol on. -/
def lengthBases : List (Nat × Nat) :=
  [(35, 1), (37, 1), (39, 1), (41, 1), (43, 2), (47, 2), (51, 3), (59, 3), (67, 4), (83, 4),
    (99, 5), (131, 7), (259, 8), (515, 9), (1027, 10), (2051, 11), (4099, 12), (8195, 13),
    (16387, 14), (32771, 15), (65539, 16)]

/-- The base of a match length and how many bits are added. -/
def lengthBase (s : Nat) : Nat × Nat := if s < 32 then (s + 3, 0) else lengthBases.getD (s - 32) (0, 0)

/-! ## Distances -/

/-- The distance that a coded number stands for, and the recent ones after it. Numbers up to three
name a recent distance, one further on when no literals are copied. -/
def distance (r : Recent) (value literals : Nat) : Nat × Recent :=
  if 3 < value then (value - 3, ⟨value - 3, r.first, r.second⟩)
  else
    match value + (if literals == 0 then 1 else 0) with
    | 1 => (r.first, r)
    | 2 => (r.second, ⟨r.second, r.first, r.third⟩)
    | 3 => (r.third, ⟨r.third, r.first, r.second⟩)
    | _ => (r.first - 1, ⟨r.first - 1, r.first, r.second⟩)

/-! ## Applying sequences -/

/-- The state between two sequences. -/
structure State where
  bits : List Bool
  literals : Nat
  distances : Nat
  lengths : Nat
  /-- The literals not yet copied. -/
  rest : List UInt8
  recent : Recent
  out : Array UInt8

/-- The three codes of a block. -/
structure Codes where
  literals : StateTable
  distances : StateTable
  lengths : StateTable

/-- Apply one sequence. The distance may reach neither beyond `window` nor before the text. -/
def step? (c : Codes) (window : Nat) (s : State) : Option State := do
  let o := (c.distances.entry s.distances).symbol
  let l := lengthBase (c.lengths.entry s.lengths).symbol
  let n := literalBase (c.literals.entry s.literals).symbol
  let (ov, bits) ← take? o s.bits
  let (lv, bits) ← take? l.2 bits
  let (nv, bits) ← take? n.2 bits
  let count := n.1 + nv
  let (d, recent) := distance s.recent (Nat.pow 2 o + ov) count
  let head := s.rest.take count
  if head.length < count then none
  let out := head.foldl Array.push s.out
  if d == 0 || out.size < d || window < d then none
  pure { s with bits := bits, rest := s.rest.drop count, recent := recent,
                out := copyBack d (l.1 + lv) out }

/-- Move the three codes to their next states. -/
def advance? (c : Codes) (s : State) : Option State := do
  let e := c.literals.entry s.literals
  let (a, bits) ← take? e.bits s.bits
  let m := c.lengths.entry s.lengths
  let (b, bits) ← take? m.bits bits
  let o := c.distances.entry s.distances
  let (d, bits) ← take? o.bits bits
  pure { s with bits := bits, literals := e.base + a, lengths := m.base + b, distances := o.base + d }

/-- Apply `n` sequences. -/
def run? (c : Codes) (window : Nat) : (n : Nat) → State → Option State
  | 0, s => some s
  | 1, s => step? c window s
  | n + 1, s => (step? c window s).bind fun s => (advance? c s).bind (run? c window n)

/-- How many sequences there are, and the octets after that number. -/
def number? (bs : Bytes) : Option (Nat × Bytes) :=
  match bs with
  | [] => none
  | a :: t =>
    if a < 128 then some (a.toNat, t)
    else
      match t with
      | [] => none
      | b :: t =>
        if a < 255 then some ((a.toNat - 128) * 256 + b.toNat, t)
        else
          match t with
          | [] => none
          | d :: t => some (b.toNat + d.toNat * 256 + 0x7F00, t)

/-- What was read: the text, the codes in force and the recent distances. -/
structure Result where
  out : Array UInt8
  codes : SequenceCodes
  recent : Recent

/-- Read the three codes of a block that has sequences. -/
def codes? (old : SequenceCodes) (bs : Bytes) : Option (Codes × Bytes) :=
  match bs with
  | [] => none
  | m :: t => do
    if m.toNat % 4 ≠ 0 then none
    let (a, t) ← code? (m.toNat / 64) 9 36 defaultLiterals old.literals t
    let (b, t) ← code? (m.toNat / 16 % 4) 8 32 defaultDistances old.distances t
    let (c, t) ← code? (m.toNat / 4 % 4) 9 53 defaultLengths old.lengths t
    pure (⟨a, b, c⟩, t)

/-- Apply the sequences of a block to the text before it; literals that are left over follow. -/
def read? (old : SequenceCodes) (recent : Recent) (window : Nat) (literals : List UInt8)
    (bs : Bytes) (out : Array UInt8) : Option Result := do
  let (n, t) ← number? bs
  if n == 0 then
    if t.isEmpty then pure ⟨literals.foldl Array.push out, old, recent⟩ else none
  else
    let (c, t) ← codes? old t
    let bits ← backward? t
    let (a, bits) ← take? c.literals.log bits
    let (b, bits) ← take? c.distances.log bits
    let (m, bits) ← take? c.lengths.log bits
    let s ← run? c window n ⟨bits, a, b, m, literals, recent, out⟩
    if s.bits.isEmpty then
      pure ⟨s.rest.foldl Array.push s.out, ⟨some c.literals, some c.distances, some c.lengths⟩,
        s.recent⟩
    else none

end Sequences

end DetectorStream.Zstd
