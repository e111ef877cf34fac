import DetectorStream.Compression.Bits

/-!
# Entropy codes of zstd

Coded numbers are written backwards: the last octet comes first, each octet from its most
significant bit down, and the first bit that is set only marks the start. A **state code** turns a
state into a symbol and, with a few more bits, into the next state; its table is built from the
normalized counts of the symbols.

* `backward?`: the bits of a text in this order.
* `StateTable.ofCounts`: the table of a distribution.
* `counts?`: read a distribution.
-/

namespace DetectorStream.Zstd

/-! ## Bits from the end -/

/-- The bits of an octet, most significant first. -/
def octetBits (b : UInt8) : List Bool := (List.range 8).map fun i => b.toNat.testBit (7 - i)

/-- The bits of a text from its end, after the mark. -/
def backward? (bs : Bytes) : Option (List Bool) :=
  match (bs.getLast?.map octetBits).getD [] with
  | [] => none
  | first =>
    match first.dropWhile (! ·) with
    | [] => none
    | _ :: rest => some (rest ++ (bs.dropLast.reverse.flatMap octetBits))

/-- The number that bits stand for, most significant first. -/
def bitsValue (bits : List Bool) : Nat := bits.foldl (fun n b => 2 * n + b.toNat) 0

/-- The next `n` bits as a number. -/
def take? (n : Nat) (bits : List Bool) : Option (Nat × List Bool) :=
  let head := bits.take n
  if head.length < n then none else some (bitsValue head, bits.drop n)

/-! ## State codes -/

/-- One state: its symbol, how many bits the next state needs, and what they are added to. -/
structure Entry where
  symbol : Nat
  bits : Nat
  base : Nat
deriving Inhabited

/-- A state code with `2 ^ log` states. -/
structure StateTable where
  log : Nat
  entries : Array Entry

namespace StateTable

/-- A code that always gives the same symbol. -/
def constant (symbol : Nat) : StateTable := ⟨0, #[⟨symbol, 0, 0⟩]⟩

/-- The state's entry. -/
def entry (t : StateTable) (state : Nat) : Entry := t.entries.getD state ⟨0, 0, 0⟩

/-- The symbols of rare count in order, which take the states from the last one down. -/
def rare (counts : List Int) : List Nat :=
  (counts.zipIdx.filter fun p => p.1 == -1).map Prod.snd

/-- Each other symbol as often as its count says. -/
def common (counts : List Int) : List Nat :=
  counts.zipIdx.flatMap fun (c, s) => List.replicate c.toNat s

/-- Lay symbols out over the states below `limit`, `step` states apart modulo `size`. `fuel` bounds
the steps over states that are taken. -/
def spread (size step limit : Nat) : (fuel at_ : Nat) → List Nat → Array Nat → Array Nat
  | 0, _, _, a => a
  | _, _, [], a => a
  | fuel + 1, at_, s :: rest, a =>
    if at_ < limit then
      spread size step limit fuel ((at_ + step) % size) rest (a.setIfInBounds at_ s)
    else spread size step limit fuel ((at_ + step) % size) (s :: rest) a

/-- The symbol of each state. -/
def layout (log : Nat) (counts : List Int) : Array Nat :=
  let size := Nat.pow 2 log
  let low := rare counts
  let a := low.zipIdx.foldl (fun (a : Array Nat) (s, i) => a.setIfInBounds (size - 1 - i) s)
    (Array.replicate size 0)
  spread size (size / 2 + size / 8 + 3) (size - low.length) (2 * size + 2) 0 (common counts) a

/-- Turn the symbols of the states into entries: the occurrences of a symbol are numbered from its
count up, and the number says where the next state lies. -/
def number (log : Nat) : (symbols : List Nat) → (next : Array Nat) → Array Entry → Array Entry
  | [], _, acc => acc
  | s :: rest, next, acc =>
    let n := next.getD s 1
    let bits := log - Nat.log2 n
    number log rest (next.setIfInBounds s (n + 1)) (acc.push ⟨s, bits, n * Nat.pow 2 bits - Nat.pow 2 log⟩)

/-- The table of a distribution. -/
def ofCounts (log : Nat) (counts : List Int) : StateTable :=
  ⟨log, number log (layout log counts).toList
    (counts.map fun c => if c == -1 then 1 else c.toNat).toArray #[]⟩

end StateTable

/-! ## Distributions -/

/-- Read how many further symbols have the count zero. -/
def zeros : (fuel : Nat) → BitReader → Nat → Option (Nat × BitReader)
  | 0, _, _ => none
  | fuel + 1, r, n =>
    match r.bits? 2 with
    | none => none
    | some (v, r) => if v == 3 then zeros fuel r (n + 3) else some (n + v, r)

/-- One count, written in the fewest bits that the remaining share allows. -/
def count? (remaining : Nat) (r : BitReader) : Option (Int × BitReader) :=
  let width := Nat.log2 (remaining + 1) + 1
  let threshold := Nat.pow 2 (width - 1)
  let spare := 2 * threshold - 1 - (remaining + 1)
  match r.bits? (width - 1) with
  | none => none
  | some (v, r₁) =>
    if v < spare then some ((v : Int) - 1, r₁)
    else
      match r.bits? width with
      | none => none
      | some (v, r₂) => some (((if threshold ≤ v then v - spare else v : Nat) : Int) - 1, r₂)

/-- Read counts until the share is used up, onto the reversed list of those read. -/
def countsOnto : (fuel remaining : Nat) → BitReader → List Int → Option (List Int × BitReader)
  | _, 0, r, acc => some (acc.reverse, r)
  | 0, _ + 1, _, _ => none
  | fuel + 1, remaining + 1, r, acc =>
    match count? (remaining + 1) r with
    | none => none
    | some (c, r) =>
      if remaining + 1 < c.natAbs then none
      else if c == 0 then
        match zeros (r.size + 1) r 0 with
        | none => none
        | some (n, r) => countsOnto fuel (remaining + 1) r (List.replicate (n + 1) 0 ++ acc)
      else countsOnto fuel (remaining + 1 - c.natAbs) r (c :: acc)

/-- Read a distribution over at most `symbols` symbols with at most `2 ^ maxLog` states: its size,
the counts, and the octets after it. -/
def counts? (maxLog symbols : Nat) (bs : Bytes) : Option (Nat × List Int × Bytes) :=
  match ({ bytes := bs } : BitReader).bits? 4 with
  | none => none
  | some (v, r) =>
    let log := v + 5
    if maxLog < log then none
    else
      match countsOnto (symbols + 1) (Nat.pow 2 log) r [] with
      | none => none
      | some (cs, r) => if symbols < cs.length then none else some (log, cs, r.align.bytes)

end DetectorStream.Zstd
