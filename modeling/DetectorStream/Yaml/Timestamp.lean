import DetectorStream.Text.Basic

/-!
# Timestamps

The texts that read as a point in time: a date of four, one or two, and one or two digits, alone or
followed by a time of day. A `T` before the time asks for a zone after it, a blank for none.
-/

namespace DetectorStream.Yaml.Timestamp

/-- A number of one or two digits. -/
def pair? : Text → Option (Nat × Text)
  | a :: b :: t =>
    if !Text.isDigit a then none
    else if Text.isDigit b then some ((a.toNat - 0x30) * 10 + (b.toNat - 0x30), t)
    else some (a.toNat - 0x30, b :: t)
  | [a] => if Text.isDigit a then some (a.toNat - 0x30, []) else none
  | [] => none

/-- The octet `b` and what follows it. -/
def after? (b : UInt8) : Text → Option Text
  | c :: t => if c == b then some t else none
  | [] => none

/-- The days of a month. -/
def daysIn (year month : Nat) : Nat :=
  if month == 2 then if year % 4 == 0 && (year % 100 != 0 || year % 400 == 0) then 29 else 28
  else if month == 4 || month == 6 || month == 9 || month == 11 then 30
  else 31

/-- A date at the start of a text: is it a day of the calendar, and what follows it? -/
def date? (t : Text) : Option (Bool × Text) := do
  let digits := t.takeWhile Text.isDigit
  if digits.length != 4 then none
  else
    let year := digits.foldl (fun n b => n * 10 + (b.toNat - 0x30)) 0
    let t ← after? 0x2D (t.drop 4)
    let (month, t) ← pair? t
    if month < 1 || 12 < month then none
    else
      let t ← after? 0x2D t
      let (day, t) ← pair? t
      some (1 ≤ day && day ≤ daysIn year month, t)

/-- A fraction of a second, which may be missing. -/
def fraction (t : Text) : Text :=
  match t with
  | p :: d :: r => if (p == 0x2E || p == 0x2C) && Text.isDigit d then r.dropWhile Text.isDigit else t
  | _ => t

/-- A time of day and what follows it. -/
def time? (t : Text) : Option Text := do
  let (hour, t) ← pair? t
  let t ← after? 0x3A t
  let (minute, t) ← pair? t
  let t ← after? 0x3A t
  let (second, t) ← pair? t
  if 24 ≤ hour || 60 ≤ minute || 60 ≤ second then none else some (fraction t)

/-- Is the text a zone: `Z`, or a signed offset of hours and minutes? -/
def isZone : Text → Bool
  | [0x5A] => true
  | [s, h, h', c, m, m'] =>
    (s == 0x2B || s == 0x2D) && c == 0x3A && [h, h', m, m'].all Text.isDigit
      && (h.toNat - 0x30) * 10 + (h'.toNat - 0x30) ≤ 24
      && (m.toNat - 0x30) * 10 + (m'.toNat - 0x30) ≤ 60
  | _ => false

/-- Does the text read as a point in time? -/
def accepts (t : Text) : Bool :=
  match date? t with
  | none => false
  | some (valid, rest) =>
    valid && match rest with
      | [] => true
      | b :: r =>
        if b == 0x54 || b == 0x74 then (time? r).any isZone
        else if b == 0x20 then (time? (r.dropWhile (· == 0x20))).any List.isEmpty
        else false

end DetectorStream.Yaml.Timestamp
