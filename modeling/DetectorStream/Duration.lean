import DetectorStream.Number.Shortest

/-!
# Durations

A duration is a signed number of nanoseconds. Its text names hours, minutes and seconds
(`1h2m3.5s`), or one smaller unit below a second (`1.5ms`); reading takes any sequence of decimal
numbers with units.

* `Duration.text`: the text of a duration.
* `Duration.parse`: the duration a text stands for, or the complaint about it.
* `Duration.seconds`: a duration in seconds, as a double.
-/

namespace DetectorStream

/-- A signed number of nanoseconds. -/
abbrev Duration := Int64

namespace Duration

/-- A number of nanoseconds. -/
def nanoseconds (n : Int) : Duration := Int64.ofInt n

/-- A number of milliseconds. -/
def milliseconds (n : Int) : Duration := Int64.ofInt (n * 1000000)

/-- A number of whole seconds. -/
def ofSeconds (n : Int) : Duration := Int64.ofInt (n * 1000000000)

/-! ## Writing -/

/-- `n / 10 ^ places` without trailing zeros after the point, and without the point when nothing
follows it. -/
def fraction (places n : Nat) : Text :=
  let tail := Text.trimRight (· == 0x30) (Decimal.padded places (n % Nat.pow 10 places))
  Decimal.ofNat (n / Nat.pow 10 places) ++ (if tail.isEmpty then [] else 0x2E :: tail)

/-- The text of a number of nanoseconds without its sign. -/
def magnitudeText (n : Nat) : Text :=
  if n == 0 then "0s"
  else if n < 1000 then Decimal.ofNat n ++ "ns"
  else if n < 1000000 then fraction 3 n ++ "µs"
  else if n < 1000000000 then fraction 6 n ++ "ms"
  else
    let minutes := n / 60000000000
    let secondsText := fraction 9 (n % 60000000000) ++ "s"
    if minutes == 0 then secondsText
    else if minutes < 60 then Decimal.ofNat minutes ++ "m" ++ secondsText
    else Decimal.ofNat (minutes / 60) ++ "h" ++ Decimal.ofNat (minutes % 60) ++ "m" ++ secondsText

/-- The text of a duration. -/
def text (d : Duration) : Text :=
  let n := d.toInt
  if n < 0 then 0x2D :: magnitudeText n.natAbs else magnitudeText n.natAbs

/-! ## Reading -/

/-- A text as it is shown in a complaint: octets outside printable ASCII by value. -/
def quoted (t : Text) : Text :=
  [0x22] ++ t.flatMap (fun b =>
    if b < 0x20 || 0x80 ≤ b then Text.ofString "\\x" ++ Text.hex 2 b.toNat
    else if b == 0x22 || b == 0x5C then [0x5C, b]
    else [b]) ++ [0x22]

/-- The nanoseconds of a unit. -/
def unit? (t : Text) : Option Nat :=
  if t == "ns" then some 1
  else if t == "us" || t == "µs" || t == "μs" then some 1000
  else if t == "ms" then some 1000000
  else if t == "s" then some 1000000000
  else if t == "m" then some 60000000000
  else if t == "h" then some 3600000000000
  else none

/-- The number in front of the point, `none` beyond `2 ^ 63`; with the rest. -/
def whole? (acc : Nat) : Text → Option (Nat × Text)
  | [] => some (acc, [])
  | b :: t =>
    if Text.isDigit b then
      let n := acc * 10 + (b.toNat - 0x30)
      if 0x8000000000000000 / 10 < acc || 0x8000000000000000 < n then none else whole? n t
    else some (acc, b :: t)

/-- The digits after the point as a number and the power of ten they are to be divided by. Digits
that no longer fit are dropped. -/
def places (acc : Nat) (scale : Float) (full : Bool) : Text → Nat × Float × Text
  | [] => (acc, scale, [])
  | b :: t =>
    if !Text.isDigit b then (acc, scale, b :: t)
    else
      let n := acc * 10 + (b.toNat - 0x30)
      if full || 0x7FFFFFFFFFFFFFFF / 10 < acc || 0x8000000000000000 < n then places acc scale true t
      else places n (scale * 10) false t

/-- Why a text is not a duration. -/
inductive Complaint
  | invalid
  | missingUnit
  | unknownUnit (unit : Text)
deriving DecidableEq, Repr

/-- The wording of a complaint about the text `t`. -/
def Complaint.message (t : Text) : Complaint → Text
  | .invalid => "time: invalid duration " ++ quoted t
  | .missingUnit => "time: missing unit in duration " ++ quoted t
  | .unknownUnit u => "time: unknown unit " ++ quoted u ++ " in duration " ++ quoted t

/-- One number with its unit, in nanoseconds, and the rest of the text. -/
def term (t : Text) : Except Complaint (Nat × Text) :=
  match t with
  | [] => .error .invalid
  | b :: _ =>
    if !(b == 0x2E || Text.isDigit b) then .error .invalid
    else
      match whole? 0 t with
      | none => .error .invalid
      | some (v, t₁) =>
        let before := t₁.length != t.length
        let (f, scale, t₂, after) := match t₁ with
          | 0x2E :: r =>
            let (f, scale, r') := places 0 1 false r
            (f, scale, r', r'.length != r.length)
          | r => (0, 1, r, false)
        if !before && !after then .error .invalid
        else
          let name := t₂.takeWhile fun c => !(c == 0x2E || Text.isDigit c)
          let rest := t₂.dropWhile fun c => !(c == 0x2E || Text.isDigit c)
          if name.isEmpty then .error .missingUnit
          else
            match unit? name with
            | none => .error (.unknownUnit name)
            | some unit =>
              if 0x8000000000000000 / unit < v then .error .invalid
              else
                let part : Nat :=
                  if f == 0 then 0
                  else (Binary64.ofInt f * (Binary64.ofInt unit / scale)).toUInt64.toNat
                let n := v * unit + part
                if 0x8000000000000000 < n then .error .invalid else .ok (n, rest)

/-- The sum of the terms of a text. Each term takes at least one octet, which bounds `fuel`. -/
def terms : (fuel : Nat) → (sum : Nat) → Text → Except Complaint Nat
  | _, sum, [] => .ok sum
  | 0, _, _ :: _ => .error .invalid
  | fuel + 1, sum, t =>
    match term t with
    | .error e => .error e
    | .ok (n, rest) => if 0x8000000000000000 < sum + n then .error .invalid else terms fuel (sum + n) rest

/-- The duration a text stands for. -/
def parse (t : Text) : Except Complaint Duration :=
  let (negative, body) := Numeral.signed t
  if body == "0" then .ok 0
  else if body.isEmpty then .error .invalid
  else
    match terms body.length 0 body with
    | .error e => .error e
    | .ok n =>
      if negative then .ok (Int64.ofInt (-(n : Int)))
      else if 0x8000000000000000 ≤ n then .error .invalid
      else .ok (Int64.ofInt n)

/-! ## Arithmetic -/

/-- A duration in seconds. -/
def seconds (d : Duration) : Float :=
  Binary64.ofInt (d.toInt.tdiv 1000000000) + Binary64.ofInt (d.toInt.tmod 1000000000) / 1000000000

/-- The nearest duration to an exact number of nanoseconds. -/
def saturate (n : Int) : Duration :=
  if n < -(0x8000000000000000) then Int64.minValue
  else if 0x8000000000000000 ≤ n then Int64.maxValue
  else Int64.ofInt n

end Duration

end DetectorStream
