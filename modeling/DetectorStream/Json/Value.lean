import DetectorStream.Json.Reader

/-!
# JSON values

A whole document read strictly: every value must be well-formed and nothing may follow it.

* `Json.Value.parse?`: the value of a document.
* `Json.Value.member?`: a member of an object; of several with the same name the last counts.
-/

namespace DetectorStream.Json

/-- A JSON value; a number is kept as its text. -/
inductive Value
  | null
  | bool (b : Bool)
  | number (t : Text)
  | string (t : Text)
  | array (xs : List Value)
  | object (ms : List (Text × Value))

namespace Value

/-- A run of at least one digit. -/
def digits? (t : Bytes) : Option (Text × Bytes) :=
  let ds := t.takeWhile Text.isDigit
  if ds.isEmpty then none else some (ds, t.drop ds.length)

/-- A number: sign, whole part without leading zeros, fraction and exponent. -/
def number? (t : Bytes) : Option (Text × Bytes) := do
  let (sign, t) := match t with | 0x2D :: t => ([0x2D], t) | _ => (([] : Text), t)
  let (whole, t) ← match t with
    | 0x30 :: t => some ([0x30], t)
    | t => digits? t
  let (fraction, t) ← match t with
    | 0x2E :: t => (digits? t).map fun (ds, t) => (0x2E :: ds, t)
    | t => some ([], t)
  let (power, t) ← match t with
    | e :: t' =>
      if e == 0x65 || e == 0x45 then
        let (s, t') := match t' with
          | 0x2B :: t => ([0x2B], t)
          | 0x2D :: t => ([0x2D], t)
          | t => (([] : Text), t)
        (digits? t').map fun (ds, t) => (e :: s ++ ds, t)
      else some ([], t)
    | [] => some ([], t)
  pure (sign ++ whole ++ fraction ++ power, t)

/-- A string without control characters. -/
def string? (t : Bytes) : Option (Text × Bytes) :=
  match stringRest [] none t with
  | none => none
  | some (s, rest) =>
    if (t.take (t.length - rest.length)).any (· < 0x20) then none else some (Text.sanitize s, rest)

mutual

/-- Read a value. Every nested value takes an octet, which bounds `fuel`. -/
def value? : (fuel : Nat) → Bytes → Option (Value × Bytes)
  | 0, _ => none
  | fuel + 1, t =>
    match skipBlank t with
    | 0x22 :: t => (string? t).map fun (s, t) => (.string s, t)
    | 0x5B :: t =>
      match skipBlank t with
      | 0x5D :: t => some (.array [], t)
      | t => (items? fuel t).map fun (xs, t) => (.array xs, t)
    | 0x7B :: t =>
      match skipBlank t with
      | 0x7D :: t => some (.object [], t)
      | t => (entries? fuel t).map fun (ms, t) => (.object ms, t)
    | 0x6E :: t => (word? "ull" t).map fun t => (.null, t)
    | 0x74 :: t => (word? "rue" t).map fun t => (.bool true, t)
    | 0x66 :: t => (word? "alse" t).map fun t => (.bool false, t)
    | t => (number? t).map fun (n, t) => (.number n, t)

/-- Read the items of an array up to its closing bracket. -/
def items? : (fuel : Nat) → Bytes → Option (List Value × Bytes)
  | 0, _ => none
  | fuel + 1, t =>
    match value? fuel t with
    | none => none
    | some (x, t) =>
      match skipBlank t with
      | 0x5D :: t => some ([x], t)
      | 0x2C :: t => (items? fuel t).map fun (xs, t) => (x :: xs, t)
      | _ => none

/-- Read the members of an object up to its closing brace. -/
def entries? : (fuel : Nat) → Bytes → Option (List (Text × Value) × Bytes)
  | 0, _ => none
  | fuel + 1, t =>
    match skipBlank t with
    | 0x22 :: t =>
      match string? t with
      | none => none
      | some (k, t) =>
        match skipBlank t with
        | 0x3A :: t =>
          match value? fuel t with
          | none => none
          | some (v, t) =>
            match skipBlank t with
            | 0x7D :: t => some ([(k, v)], t)
            | 0x2C :: t => (entries? fuel t).map fun (ms, t) => ((k, v) :: ms, t)
            | _ => none
        | _ => none
    | _ => none

end

/-- The value of a document. -/
def parse? (t : Bytes) : Option Value :=
  match value? (2 * t.length + 2) t with
  | some (v, rest) => if (skipBlank rest).isEmpty then some v else none
  | none => none

/-- A member of an object. -/
def member? (v : Value) (key : Text) : Option Value :=
  match v with
  | .object ms => ms.reverse.lookup key
  | _ => none

/-- The text of a string. -/
def text? : Value → Option Text
  | .string t => some t
  | _ => none

end Value

end DetectorStream.Json
