import DetectorStream.Text.Basic

/-!
# Base 64

Three octets as four characters of an alphabet of sixty-four, padded with `=` to a multiple of four.
Reading passes over line ends and refuses everything else that writing does not produce, except
that the bits left over in the last character are not looked at.
-/

namespace DetectorStream.Base64

/-- The character of a six-bit value. -/
def digit (n : Nat) : UInt8 :=
  if n < 26 then (0x41 + n).toUInt8
  else if n < 52 then (0x61 + (n - 26)).toUInt8
  else if n < 62 then (0x30 + (n - 52)).toUInt8
  else if n == 62 then 0x2B
  else 0x2F

/-- The value of a character. -/
def value? (b : UInt8) : Option Nat :=
  if Text.isUpper b then some (b.toNat - 0x41)
  else if Text.isLower b then some (b.toNat - 0x61 + 26)
  else if Text.isDigit b then some (b.toNat - 0x30 + 52)
  else if b == 0x2B then some 62
  else if b == 0x2F then some 63
  else none

/-- Octets in base 64. -/
def encode : Bytes → Text
  | a :: b :: c :: r =>
    let n := a.toNat * 65536 + b.toNat * 256 + c.toNat
    digit (n / 262144) :: digit (n / 4096 % 64) :: digit (n / 64 % 64) :: digit (n % 64) :: encode r
  | [a, b] =>
    let n := a.toNat * 1024 + b.toNat * 4
    [digit (n / 4096), digit (n / 64 % 64), digit (n % 64), 0x3D]
  | [a] => [digit (a.toNat / 4), digit (a.toNat % 4 * 16), 0x3D, 0x3D]
  | [] => []

/-- Groups of four characters. -/
def decodeGroups : Text → Option Bytes
  | [] => some []
  | a :: b :: c :: d :: r => do
    let x ← value? a
    let y ← value? b
    if c == 0x3D then
      if d == 0x3D && r.isEmpty then some [(x * 4 + y / 16).toUInt8] else none
    else
      let z ← value? c
      if d == 0x3D then
        if r.isEmpty then some [(x * 4 + y / 16).toUInt8, (y % 16 * 16 + z / 4).toUInt8] else none
      else
        let w ← value? d
        let rest ← decodeGroups r
        some ((x * 4 + y / 16).toUInt8 :: (y % 16 * 16 + z / 4).toUInt8 :: (z % 4 * 64 + w).toUInt8 :: rest)
  | _ => none

/-- The octets that a text in base 64 stands for. -/
def decode? (t : Text) : Option Bytes := decodeGroups (t.filter fun b => b != 0x0A && b != 0x0D)

end DetectorStream.Base64
