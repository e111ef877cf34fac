/-!
# Text as octets

Names, paths and messages are kept as the octets of their UTF-8 form. Nothing promises that a name
read from a file, a locator or a message is well-formed UTF-8, so a text is any list of octets and
every operation below is defined on all of them.

* `Text.ofString`: the octets of a literal; a `String` is used as a `Text` through it.
* `Text.cut?`: split around the first occurrence of a separator.
* `Text.toLowerAscii`: lower-case the ASCII letters and keep every other octet.
-/

namespace DetectorStream

/-- A sequence of octets: file contents, encoded messages. -/
abbrev Bytes := List UInt8

/-- Text, held as the octets of its UTF-8 form, which may be ill-formed. -/
abbrev Text := List UInt8

namespace Text

/-- The octets of a string. -/
def ofString (s : String) : Text := s.toByteArray.data.toList

instance : Coe String Text := ⟨ofString⟩

/-- The string of a text that is well-formed UTF-8. -/
def toString? (t : Text) : Option String := String.fromUTF8? ⟨t.toArray⟩

/-! ## Octet classes -/

/-- Does `b` lie between `lo` and `hi`, both included? -/
@[inline] def within (lo hi b : UInt8) : Bool := lo ≤ b && b ≤ hi

/-- An ASCII digit. -/
@[inline] def isDigit (b : UInt8) : Bool := within 0x30 0x39 b

/-- An ASCII upper-case letter. -/
@[inline] def isUpper (b : UInt8) : Bool := within 0x41 0x5A b

/-- An ASCII lower-case letter. -/
@[inline] def isLower (b : UInt8) : Bool := within 0x61 0x7A b

/-- An ASCII letter. -/
@[inline] def isAlpha (b : UInt8) : Bool := isUpper b || isLower b

/-- An ASCII letter or digit. -/
@[inline] def isAlnum (b : UInt8) : Bool := isAlpha b || isDigit b

/-- The value of a hexadecimal digit. -/
def hexValue? (b : UInt8) : Option Nat :=
  if isDigit b then some (b.toNat - 0x30)
  else if within 0x61 0x66 b then some (b.toNat - 0x61 + 10)
  else if within 0x41 0x46 b then some (b.toNat - 0x41 + 10)
  else none

/-- The lower-case hexadecimal digit of a value below sixteen. -/
def hexDigit (n : Nat) : UInt8 := if n < 10 then (0x30 + n).toUInt8 else (0x57 + n).toUInt8

/-- The upper-case hexadecimal digit of a value below sixteen. -/
def hexDigitUpper (n : Nat) : UInt8 := if n < 10 then (0x30 + n).toUInt8 else (0x37 + n).toUInt8

/-- The low `width` hexadecimal digits of `n`, most significant first. -/
def hex : (width : Nat) → (n : Nat) → Text
  | 0, _ => []
  | w + 1, n => hex w (n / 16) ++ [hexDigit (n % 16)]

/-- One ASCII letter in lower case; any other octet as it is. -/
@[inline] def lowerOctet (b : UInt8) : UInt8 := if isUpper b then b + 0x20 else b

/-- One ASCII letter in upper case; any other octet as it is. -/
@[inline] def upperOctet (b : UInt8) : UInt8 := if isLower b then b - 0x20 else b

/-- The text with its ASCII letters in lower case. -/
def toLowerAscii (t : Text) : Text := t.map lowerOctet

/-- The text with its ASCII letters in upper case. -/
def toUpperAscii (t : Text) : Text := t.map upperOctet

/-! ## Searching and cutting -/

/-- Does `t` start with `head`? -/
@[inline] def startsWith (head t : Text) : Bool := head.isPrefixOf t

/-- Does `t` end with `tail`? -/
@[inline] def endsWith (tail t : Text) : Bool := tail.isSuffixOf t

/-- The parts of `t` before and after the first occurrence of `sep`. -/
def cut? (sep : Text) : Text → Option (Text × Text)
  | [] => if sep.isEmpty then some ([], []) else none
  | b :: t =>
    if startsWith sep (b :: t) then some ([], (b :: t).drop sep.length)
    else (cut? sep t).map fun (before, after) => (b :: before, after)

/-- Does `sub` occur in `t`? -/
def includes (sub t : Text) : Bool := (cut? sub t).isSome

/-- The parts of `t` between the occurrences of the octet `sep`; always at least one part. -/
def split (sep : UInt8) (t : Text) : List Text := t.splitOn sep

/-- The parts joined by `sep`. -/
def join (sep : Text) (parts : List Text) : Text := List.intercalate sep parts

/-- The parts of `t` before and after the last octet that satisfies `p`. -/
def cutLast? (p : UInt8 → Bool) (t : Text) : Option (Text × UInt8 × Text) :=
  let back := t.reverse
  match back.dropWhile (fun b => !p b) with
  | [] => none
  | b :: before => some (before.reverse, b, (back.takeWhile fun b => !p b).reverse)

/-- Drop the octets in `set` from both ends. -/
def trim (set : UInt8 → Bool) (t : Text) : Text :=
  ((t.dropWhile set).reverse.dropWhile set).reverse

/-- Drop the octets in `set` from the end. -/
def trimRight (set : UInt8 → Bool) (t : Text) : Text := (t.reverse.dropWhile set).reverse

/-- Octet order, the order in which names are sorted. -/
def le : Text → Text → Bool
  | [], _ => true
  | _ :: _, [] => false
  | a :: s, b :: t => a < b || (a == b && le s t)

/-- Texts in octet order. -/
def sort (ts : List Text) : List Text := ts.mergeSort le

end Text

end DetectorStream
