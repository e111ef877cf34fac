import DetectorStream.Compression.Bits

/-!
# Canonical prefix codes

A canonical code is given by the lengths of its code words alone: words of the same length are
consecutive numbers in the order of their symbols, and longer words follow shorter ones.

* `PrefixCode.ofLengths?`: the code of a list of lengths, if it is complete.
* `PrefixCode.decode?`: the next symbol.
-/

namespace DetectorStream

/-- How many words there are of each length from one on, and all symbols in the order of their
words. -/
structure PrefixCode where
  counts : List Nat
  symbols : Array Nat

namespace PrefixCode

/-- The longest word. -/
def maxLength : Nat := 15

/-- The symbols with words of length `n`. -/
def ofLength (lengths : List Nat) (n : Nat) : List Nat :=
  (lengths.zipIdx.filter fun p => p.1 == n).map Prod.snd

/-- The code of a list of lengths, whatever it is. -/
def ofLengths (lengths : List Nat) : PrefixCode :=
  let groups := (List.range maxLength).map fun i => ofLength lengths (i + 1)
  ⟨groups.map List.length, groups.flatten.toArray⟩

/-- The share of all words of length `maxLength` that the code covers. -/
def covered (c : PrefixCode) : Nat :=
  c.counts.zipIdx.foldl (fun sum (n, i) => sum + n * Nat.pow 2 (maxLength - 1 - i)) 0

/-- Is the code empty, complete, or a single word of one bit? -/
def isUsable (c : PrefixCode) : Bool :=
  c.symbols.isEmpty || c.covered == Nat.pow 2 maxLength
    || (c.symbols.size == 1 && c.counts.head? == some 1)

/-- The code of a list of lengths, if it can be used. -/
def ofLengths? (lengths : List Nat) : Option PrefixCode :=
  let c := ofLengths lengths
  if c.isUsable then some c else none

/-- Read bits until they are a word: `code` is the word so far, `first` the first word of its
length, `index` the place of that word's symbol. -/
def walk? (c : PrefixCode) : List Nat → (code first index : Nat) → BitReader →
    Option (Nat × BitReader)
  | [], _, _, _, _ => none
  | n :: rest, code, first, index, r =>
    match r.bit? with
    | none => none
    | some (b, r) =>
      let code := code + b
      if code < first + n then some (c.symbols.getD (index + (code - first)) 0, r)
      else walk? c rest (2 * code) (2 * (first + n)) (index + n) r

/-- The next symbol. -/
def decode? (c : PrefixCode) (r : BitReader) : Option (Nat × BitReader) :=
  walk? c c.counts 0 0 0 r

end PrefixCode

end DetectorStream
