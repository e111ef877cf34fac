import DetectorStream.Number.FloatReader
import DetectorStream.Yaml.Timestamp

/-!
# Plain scalars

What an unquoted scalar stands for: nothing, a truth value, a number, a point in time or itself.
The same rule decides, when a text is written, whether it has to be quoted.

* `Scalar.resolve`: what a plain scalar stands for.
* `Scalar.readsAsText`: would the text, unquoted, be taken for itself by every reader? Older
  readers know more truth values and sexagesimal numbers.
-/

namespace DetectorStream.Yaml

/-- What a plain scalar stands for. -/
inductive Resolved
  | null
  | flag (b : Bool)
  | whole (n : Int)
  | real (f : Float)
  | timestamp
  | text

namespace Resolved

/-- The short tag of what a scalar stands for. -/
def tag : Resolved → String
  | null => "!!null"
  | flag _ => "!!bool"
  | whole _ => "!!int"
  | real _ => "!!float"
  | timestamp => "!!timestamp"
  | text => "!!str"

end Resolved

namespace Scalar

/-- The words with a meaning of their own. -/
def words : List (Text × Resolved) :=
  let inf := Float.ofBits 0x7FF0000000000000
  let negInf := Float.ofBits 0xFFF0000000000000
  let nan := Float.ofBits 0x7FF8000000000001
  [("true", .flag true), ("True", .flag true), ("TRUE", .flag true),
   ("false", .flag false), ("False", .flag false), ("FALSE", .flag false),
   ("", .null), ("~", .null), ("null", .null), ("Null", .null), ("NULL", .null),
   (".nan", .real nan), (".NaN", .real nan), (".NAN", .real nan),
   (".inf", .real inf), (".Inf", .real inf), (".INF", .real inf),
   ("+.inf", .real inf), ("+.Inf", .real inf), ("+.INF", .real inf),
   ("-.inf", .real negInf), ("-.Inf", .real negInf), ("-.INF", .real negInf)]

/-- An exponent, or nothing. -/
def isExponent : Text → Bool
  | [] => true
  | b :: t =>
    let body := (Numeral.signed t).2
    (b == 0x65 || b == 0x45) && !body.isEmpty && body.all Text.isDigit

/-- Decimal numbers with an optional point and exponent. -/
def isDecimal (t : Text) : Bool :=
  let body := (Numeral.signed t).2
  let before := body.takeWhile Text.isDigit
  match body.dropWhile Text.isDigit with
  | 0x2E :: r =>
    let after := r.takeWhile Text.isDigit
    (!before.isEmpty || !after.isEmpty) && isExponent (r.dropWhile Text.isDigit)
  | r => !before.isEmpty && isExponent r

/-- A whole number that fits sixty-four bits, with or without a sign. -/
def wholeIn? (base : Nat) (t : Text) : Option Int :=
  match Numeral.parseInt base 64 t with
  | .ok n => some n
  | .error _ => (Numeral.parseNat base 64 t).toOption.map Int.ofNat

/-- A whole number whose sign stands after the announced base. -/
def lateSigned? (t : Text) : Option Int :=
  if Text.startsWith "0b" t then wholeIn? 2 (t.drop 2)
  else if Text.startsWith "-0b" t then (Numeral.parseInt 2 64 (0x2D :: t.drop 3)).toOption
  else if Text.startsWith "0o" t then wholeIn? 8 (t.drop 2)
  else if Text.startsWith "-0o" t then (Numeral.parseInt 8 64 (0x2D :: t.drop 3)).toOption
  else none

/-- What a scalar that starts with a digit or a sign stands for. -/
def numeric (t : Text) : Resolved :=
  if Timestamp.accepts t then .timestamp
  else
    let digits := t.filter (· != 0x5F)
    match wholeIn? 0 digits with
    | some n => .whole n
    | none =>
      match if isDecimal digits then (FloatReader.parse digits).toOption else none with
      | some f => .real f
      | none =>
        match lateSigned? digits with
        | some n => .whole n
        | none => .text

/-- What a plain scalar stands for. Its first octet decides what it can be at all. -/
def resolve (t : Text) : Resolved :=
  match t with
  | [] => .null
  | b :: _ =>
    if Text.isDigit b || b == 0x2B || b == 0x2D then
      match words.lookup t with
      | some r => r
      | none => numeric t
    else if b == 0x2E then
      match words.lookup t with
      | some r => r
      | none =>
        match FloatReader.parse t with
        | .ok f => .real f
        | .error _ => .text
    else if (Text.ofString "yYnNtTfFoO~").elem b then (words.lookup t).getD .text
    else .text

/-- One group of a sexagesimal number, at most fifty-nine. -/
def isSixtieth (t : Text) : Bool :=
  match t with
  | [d] => Text.isDigit d
  | [d, d'] => Text.within 0x30 0x35 d && Text.isDigit d'
  | _ => false

/-- Sexagesimal numbers, such as `12:30:45`. -/
def isSexagesimal (t : Text) : Bool :=
  let body := (Numeral.signed t).2
  let (whole, fraction) := match body.idxOf? 0x2E with
    | some i => (body.take i, body.drop (i + 1))
    | none => (body, [])
  match Text.split 0x3A whole with
  | first :: groups =>
    (first.head?.any Text.isDigit) && first.all (fun b => Text.isDigit b || b == 0x5F)
      && !groups.isEmpty && groups.all isSixtieth
      && fraction.all (fun b => Text.isDigit b || b == 0x5F)
  | [] => false

/-- Words that older readers take for truth values. -/
def oldFlags : List Text :=
  ["y", "Y", "yes", "Yes", "YES", "on", "On", "ON", "n", "N", "no", "No", "NO", "off", "Off", "OFF"]

/-- Would the text, unquoted, be taken for itself by every reader? -/
def readsAsText (t : Text) : Bool :=
  match resolve t with
  | .text => !isSexagesimal t && !oldFlags.elem t
  | _ => false

end Scalar

end DetectorStream.Yaml
