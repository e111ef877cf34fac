import DetectorStream.Number.Binary64
import DetectorStream.Number.Decimal

/-!
# Reading floating-point numbers

Decimal and hexadecimal numerals with an optional exponent, `inf`, `infinity` and `nan` in any
case. The result is the double nearest to the number written; a number beyond every finite double
is out of range.
-/

namespace DetectorStream.FloatReader

/-- A numeral taken apart: its digits as one number, how many of them stand after the point, and
whether an underscore was seen. -/
structure Mantissa where
  digits : Nat := 0
  places : Nat := 0
  seenPoint : Bool := false
  seenDigit : Bool := false
  underscore : Bool := false

/-- Read digits, underscores and at most one point; what is left starts with something else. -/
def mantissa (hex : Bool) (m : Mantissa) : Text → Mantissa × Text
  | [] => (m, [])
  | b :: t =>
    if b == 0x5F then mantissa hex { m with underscore := true } t
    else if b == 0x2E then
      if m.seenPoint then (m, b :: t) else mantissa hex { m with seenPoint := true } t
    else
      match Text.hexValue? b with
      | none => (m, b :: t)
      | some d =>
        if !hex && 10 ≤ d then (m, b :: t)
        else
          mantissa hex { m with
            digits := m.digits * (if hex then 16 else 10) + d
            places := if m.seenPoint then m.places + 1 else m.places
            seenDigit := true } t

/-- The exponent after its mark: sign and digits. Beyond ten thousand it no longer grows. -/
def exponentDigits (acc : Nat) (underscore : Bool) : Text → Nat × Bool × Text
  | [] => (acc, underscore, [])
  | b :: t =>
    if b == 0x5F then exponentDigits acc true t
    else if Text.isDigit b then
      exponentDigits (if acc < 10000 then acc * 10 + (b.toNat - 0x30) else acc) underscore t
    else (acc, underscore, b :: t)

/-- The exponent part, when the mark is there: its value, whether it holds an underscore. -/
def exponent? (mark : UInt8) : Text → Option (Option Int × Bool)
  | [] => some (none, false)
  | b :: t =>
    if Text.lowerOctet b != mark then none
    else
      let (negative, body) := Numeral.signed t
      match body with
      | d :: _ =>
        if !Text.isDigit d then none
        else
          let (e, underscore, rest) := exponentDigits 0 false body
          if rest.isEmpty then some (some (if negative then -(e : Int) else e), underscore) else none
      | [] => none

/-- The names of the numbers that are not finite. -/
def special? (t : Text) : Option Float :=
  let (negative, body) := Numeral.signed t
  let name := Text.toLowerAscii body
  if name == "inf" || name == "infinity" then
    some (Float.ofBits (if negative then 0xFFF0000000000000 else 0x7FF0000000000000))
  else if Text.toLowerAscii t == "nan" then some (Float.ofBits 0x7FF8000000000001)
  else none

/-- `digits · base ^ exponent` as the nearest double. -/
def scale (negative : Bool) (digits base : Nat) (e : Int) : Float :=
  if digits == 0 then Binary64.ofRatio negative 0 1
  else if e > 20000 then Float.ofBits (if negative then 0xFFF0000000000000 else 0x7FF0000000000000)
  else if e < -20000 - (Nat.log2 digits : Int) then Binary64.ofRatio negative 0 1
  else if 0 ≤ e then Binary64.ofRatio negative (digits * Nat.pow base e.toNat) 1
  else Binary64.ofRatio negative digits (Nat.pow base (-e).toNat)

/-- Read a floating-point number. -/
def parse (t : Text) : Except NumeralError Float :=
  match special? t with
  | some f => .ok f
  | none =>
    let (negative, body) := Numeral.signed t
    let (hex, body) := match body with
      | 0x30 :: c :: d :: r => if Text.lowerOctet c == 0x78 then (true, d :: r) else (false, body)
      | _ => (false, body)
    let (m, rest) := mantissa hex {} body
    if !m.seenDigit then .error .malformed
    else
      match exponent? (if hex then 0x70 else 0x65) rest with
      | none => .error .malformed
      | some (e, underscore) =>
        if hex && e.isNone then .error .malformed
        else if (m.underscore || underscore) && !Numeral.underscoreOk t then .error .malformed
        else
          let e := e.getD 0
          let f := if hex then scale negative m.digits 2 (e - 4 * m.places)
            else scale negative m.digits 10 (e - m.places)
          if f.isInf then .error .outOfRange else .ok f

end DetectorStream.FloatReader
