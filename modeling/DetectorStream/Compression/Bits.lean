import DetectorStream.Text.Basic

/-!
# Bits of octets

A bit reader takes the bits of each octet from the least significant one up. A number of several
bits comes least significant bit first.

* `BitReader.bit?`, `BitReader.bits?`: one bit, or a number of several.
* `BitReader.align`: drop what is left of the current octet.
-/

namespace DetectorStream

/-- The octets still to be read, and the `count` low bits of `held`, which come before them. -/
structure BitReader where
  bytes : Bytes
  held : Nat := 0
  count : Nat := 0

namespace BitReader

/-- The next bit. -/
def bit? (r : BitReader) : Option (Nat × BitReader) :=
  match r.count, r.bytes with
  | c + 1, _ => some (r.held % 2, { r with held := r.held / 2, count := c })
  | 0, b :: t => some (b.toNat % 2, ⟨t, b.toNat / 2, 7⟩)
  | 0, [] => none

/-- The next `n` bits as a number. -/
def bits? : (n : Nat) → BitReader → Option (Nat × BitReader)
  | 0, r => some (0, r)
  | n + 1, r =>
    match r.bit? with
    | none => none
    | some (b, r) => (bits? n r).map fun (v, r) => (b + 2 * v, r)

/-- Drop what is left of the current octet. -/
def align (r : BitReader) : BitReader := { bytes := r.bytes }

/-- An upper bound of the bits left. -/
def size (r : BitReader) : Nat := r.count + 8 * r.bytes.length

end BitReader

/-- Append `length` octets that repeat what was written `distance` octets before. -/
def copyBack (distance : Nat) : (length : Nat) → Array UInt8 → Array UInt8
  | 0, out => out
  | n + 1, out => copyBack distance n (out.push (out.getD (out.size - distance) 0))

end DetectorStream
