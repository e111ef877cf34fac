import DetectorStream.Text.Quoted

/-!
# Whole numbers in decimal

Writing a natural number or an integer in base ten, and reading numbers back. Reading reports why
it failed: the text is not a number, or the number lies outside the range that was asked for.

* `Decimal.ofNat`, `Decimal.ofInt`: the digits, with a leading minus sign for negative numbers.
* `Decimal.readNat?`: a non-empty run of digits.
* `Numeral.parseInt`: signed numbers in a given base, base 0 meaning "as the text announces it".
* `Numeral.parseFlag`: the spellings of truth values.
-/

namespace DetectorStream

namespace Decimal

/-- The digits of `n` in base ten. -/
def ofNat (n : Nat) : Text :=
  if n < 10 then [(0x30 + n).toUInt8] else ofNat (n / 10) ++ [(0x30 + n % 10).toUInt8]

/-- An integer in base ten, a minus sign first when it is negative. -/
def ofInt : Int → Text
  | .ofNat n => ofNat n
  | .negSucc n => 0x2D :: ofNat (n + 1)

/-- The value of a list of digits read after the number `acc`. -/
def valueFrom (acc : Nat) (t : Text) : Nat := t.foldl (fun n b => n * 10 + (b.toNat - 0x30)) acc

/-- The number written by a non-empty run of digits. -/
def readNat? (t : Text) : Option Nat :=
  if t.isEmpty || !t.all Text.isDigit then none else some (valueFrom 0 t)

/-- `n` in base ten, with zeros in front up to `width` digits. -/
def padded (width n : Nat) : Text :=
  let d := ofNat n
  List.replicate (width - d.length) 0x30 ++ d

end Decimal

/-- Why a text is not a number of the kind asked for. -/
inductive NumeralError
  | malformed
  | outOfRange
deriving DecidableEq, Repr

namespace Numeral

/-- The wording of a failure, after the text that was read. -/
def reason : NumeralError → Text
  | .malformed => "invalid syntax"
  | .outOfRange => "value out of range"

/-- A failed reading as reported by the reader `reader`. -/
def failure (reader : Text) (t : Text) (e : NumeralError) : Text :=
  "strconv." ++ reader ++ ": parsing " ++ Text.quote t ++ ": " ++ reason e

/-- The value of an alphanumeric digit, in any base up to thirty-six. -/
def digitValue? (b : UInt8) : Option Nat :=
  if Text.isDigit b then some (b.toNat - 0x30)
  else if Text.isAlpha b then some ((Text.lowerOctet b).toNat - 0x61 + 10)
  else none

/-- Read digits of the base `base` onto `acc`; underscores are skipped when the base was announced.
The first digit that takes the number to `bound` or beyond ends the reading. -/
def digits (base bound : Nat) (underscores : Bool) (acc : Nat) : Text → Except NumeralError Nat
  | [] => .ok acc
  | b :: t =>
    if b == 0x5F && underscores then digits base bound underscores acc t
    else
      match digitValue? b with
      | none => .error .malformed
      | some d =>
        if base ≤ d then .error .malformed
        else if bound ≤ acc * base + d then .error .outOfRange
        else digits base bound underscores (acc * base + d) t

/-- Split off the announced base: `0b`, `0o`, `0x` or a leading zero. -/
def announced : Text → Nat × Text
  | 0x30 :: c :: d :: t =>
    let l := Text.lowerOctet c
    if l == 0x62 then (2, d :: t)
    else if l == 0x6F then (8, d :: t)
    else if l == 0x78 then (16, d :: t)
    else (8, c :: d :: t)
  | 0x30 :: c :: [] => (8, [c])
  | 0x30 :: [] => (8, [])
  | t => (10, t)

/-- What stands before a place in a numeral. -/
inductive Preceding
  | start
  | digit
  | underscore
  | other
deriving DecidableEq

/-- Underscores may stand only between digits, or between a base announcement and a digit. -/
def underscoresFit (hex : Bool) (before : Preceding) : Text → Bool
  | [] => before != .underscore
  | b :: t =>
    if Text.isDigit b || (hex && Text.within 0x61 0x66 (Text.lowerOctet b)) then
      underscoresFit hex .digit t
    else if b == 0x5F then
      before == .digit && underscoresFit hex .underscore t
    else before != .underscore && underscoresFit hex .other t

/-- A sign and what follows it; a text without a sign is positive. -/
def signed : Text → Bool × Text
  | 0x2D :: r => (true, r)
  | 0x2B :: r => (false, r)
  | r => (false, r)

/-- Are the underscores of a numeral, sign included, well placed? -/
def underscoreOk (t : Text) : Bool :=
  let body := (signed t).2
  match body with
  | 0x30 :: c :: r =>
    let l := Text.lowerOctet c
    if l == 0x62 || l == 0x6F || l == 0x78 then underscoresFit (l == 0x78) .digit r
    else underscoresFit false .start body
  | _ => underscoresFit false .start body

/-- Read an unsigned number below `2 ^ bits` in base `base`, or in the announced base when `base`
is 0. -/
def parseNat (base bits : Nat) (t : Text) : Except NumeralError Nat :=
  if t.isEmpty then .error .malformed
  else
    let (b, body) := if base == 0 then announced t else (base, t)
    match digits b (Nat.pow 2 bits) (base == 0) 0 body with
    | .error e => .error e
    | .ok n =>
      if base == 0 && body.elem 0x5F && !underscoreOk t then .error .malformed else .ok n

/-- Read a signed number that fits `bits` bits in two's complement. -/
def parseInt (base bits : Nat) (t : Text) : Except NumeralError Int :=
  let (negative, body) := signed t
  match parseNat base bits body with
  | .error e => .error e
  | .ok n =>
    if negative then
      if n ≤ Nat.pow 2 (bits - 1) then .ok (-(n : Int)) else .error .outOfRange
    else if n < Nat.pow 2 (bits - 1) then .ok n
    else .error .outOfRange

/-- The truth value a text stands for: a digit, a letter, or the word in lower case, in upper case or
with a capital letter. -/
def parseFlag (t : Text) : Except NumeralError Bool :=
  if t == "1" || t == "t" || t == "T" || t == "TRUE" || t == "true" || t == "True" then .ok true
  else if t == "0" || t == "f" || t == "F" || t == "FALSE" || t == "false" || t == "False" then .ok false
  else .error .malformed

end Numeral

end DetectorStream
