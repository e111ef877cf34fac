/-!
# Binary floating point, exactly

A finite double is `m · 2 ^ q` with natural `m`, up to sign. This module takes a double apart into
that form and rounds an exact fraction to the nearest double, ties to the even one. Everything is
done on natural numbers, so the printers and readers built on it are exact. The whole part of a
double is a word of sixty-four bits; what does not fit, and what is no number, becomes the least
word.
-/

namespace DetectorStream.Binary64

/-- What a double stands for. -/
inductive Value
  | nan
  | infinite (negative : Bool)
  | finite (negative : Bool) (mantissa : Nat) (exponent : Int)
deriving DecidableEq, Repr

/-- Take a double apart. -/
def value (f : Float) : Value :=
  let bits := f.toBits.toNat
  let negative := bits / 0x8000000000000000 == 1
  let e : Nat := bits / 0x10000000000000 % 0x800
  let m := bits % 0x10000000000000
  if e == 2047 then if m == 0 then .infinite negative else .nan
  else if e == 0 then .finite negative m (-1074)
  else .finite negative (m + 0x10000000000000) ((e : Int) - 1075)

/-- `num / den` rounded to the nearest natural number, a tie to the even one. -/
def roundDiv (num den : Nat) : Nat :=
  let q := num / den
  let r := num % den
  if 2 * r < den then q
  else if 2 * r > den then q + 1
  else q + q % 2

/-- The double nearest to `num / den`, ties to even; infinite when the fraction is too large. -/
def ofRatio (negative : Bool) (num den : Nat) : Float :=
  let sign : Nat := if negative then 0x8000000000000000 else 0
  if num == 0 || den == 0 then Float.ofBits sign.toUInt64
  else
    -- the exponent for which the rounded quotient has 53 bits, or the least one
    let guess : Int := (Nat.log2 num : Int) - (Nat.log2 den : Int) - 52
    let scaled (q : Int) : Nat :=
      if 0 ≤ q then roundDiv num (den * Nat.pow 2 q.toNat) else roundDiv (num * Nat.pow 2 (-q).toNat) den
    let floorBits (q : Int) : Nat :=
      if 0 ≤ q then num / (den * Nat.pow 2 q.toNat) else num * Nat.pow 2 (-q).toNat / den
    let q0 := if floorBits guess < 0x10000000000000 then guess - 1 else guess
    let q := max q0 (-1074)
    let m := scaled q
    let (m, q) := if m == 0x20000000000000 then (0x10000000000000, q + 1) else (m, q)
    if q > 971 then Float.ofBits (sign + 2047 * 0x10000000000000).toUInt64
    else if m < 0x10000000000000 then Float.ofBits (sign + m).toUInt64
    else Float.ofBits (sign + (q + 1075).toNat * 0x10000000000000 + (m - 0x10000000000000)).toUInt64

/-- The double nearest to an integer. -/
def ofInt (n : Int) : Float := ofRatio (n < 0) n.natAbs 1

/-- The whole part of a double; the least word where there is none that fits. -/
def toWord (f : Float) : Int64 :=
  if f.isNaN || f < -9223372036854775808 || 9223372036854775808 ≤ f then Int64.minValue
  else f.toInt64

end DetectorStream.Binary64
