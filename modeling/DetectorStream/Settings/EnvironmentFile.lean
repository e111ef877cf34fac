import DetectorStream.Settings.Substitution
import DetectorStream.Text.Utf8

/-!
# Environment files

A file of assignments `NAME=value` or `NAME: value`, one to a line, with comments from `#` on. A
value stands in quotes or extends to the end of its line. Between double quotes escapes are read;
there, and without quotes, `$NAME` stands for the value of an earlier line. A file in which
something cannot be read counts as a whole as unreadable.

* `EnvironmentFile.parse?`: the assignments of a file, in order.
* `EnvironmentFile.extend`: an environment with the variables of a file that it does not have yet.
-/

namespace DetectorStream.EnvironmentFile

/-- White space that does not end a line. -/
def isBlank (n : Nat) : Bool :=
  n == 0x09 || n == 0x0B || n == 0x0C || n == 0x0D || n == 0x20 || n == 0x85 || n == 0xA0

/-- White space within a line. -/
def isBlankGlyph : Glyph → Bool
  | .char c => isBlank c.toNat
  | .stray _ => false

/-- Drop white space up to the end of the line. -/
def dropBlanks (t : Text) : Text := Text.ofGlyphs ((Glyph.read t).dropWhile isBlankGlyph)

/-- Letters among the first 256 characters. -/
def isLetter (b : UInt8) : Bool :=
  Text.isAlpha b || b == 0xAA || b == 0xB5 || b == 0xBA || Text.within 0xC0 0xD6 b
    || Text.within 0xD8 0xF6 b || Text.within 0xF8 0xFF b

/-- Numbers among the first 256 characters. -/
def isNumber (b : UInt8) : Bool :=
  Text.isDigit b || b == 0xB2 || b == 0xB3 || b == 0xB9 || Text.within 0xBC 0xBE b

/-- Octets that may stand in a name. -/
def isNameOctet (b : UInt8) : Bool := b == 0x5F || b == 0x2E || isLetter b || isNumber b

/-- What follows blank lines and comments; nothing at the end of the file. `fuel` bounds the number
of comments. -/
def start? : (fuel : Nat) → Text → Option Text
  | 0, _ => none
  | fuel + 1, t =>
    match Text.trimLeftSpace t with
    | [] => none
    | 0x23 :: rest => start? fuel (rest.dropWhile (· != 0x0A))
    | rest => some rest

/-- A word `export` in front of a name counts for nothing. -/
def dropExport (t : Text) : Text :=
  let t := dropBlanks t
  if Text.startsWith "export" t then
    let rest := t.drop 6
    if (dropBlanks rest).length < rest.length then dropBlanks rest else t
  else t

/-- The text before and after the sign that ends a name; `none` when something else stands in it.
A name that nothing ends is empty, and everything is its value. -/
def nameOnto (whole acc : Text) : Text → Option (Text × Text)
  | [] => some ([], whole)
  | b :: t =>
    if isBlank b.toNat then nameOnto whole (b :: acc) t
    else if b == 0x3D || b == 0x3A then some (acc.reverse, t)
    else if isNameOctet b then nameOnto whole (b :: acc) t
    else none

/-- The name of an assignment, and the text of its value. -/
def name? (t : Text) : Option (Text × Text) :=
  let t := dropExport t
  if t.isEmpty then none
  else
    (nameOnto t [] t).map fun (name, rest) =>
      (Text.ofGlyphs ((Glyph.read name).reverse.dropWhile Text.isSpaceGlyph).reverse, dropBlanks rest)

/-! ## Values -/

/-- An octet of a variable name in a value. -/
def isVariableOctet (b : UInt8) : Bool := Text.isUpper b || Text.isDigit b || b == 0x5F

/-- The text without the octet `b` in front, if it is there. -/
def without (b : UInt8) (t : Text) : Text := if t.head? == some b then t.drop 1 else t

theorem length_without (b : UInt8) (t : Text) : (without b t).length ≤ t.length := by
  unfold without
  split <;> simp

/-- What follows a dollar sign: a name, perhaps in brackets, and the text after it. -/
def reference (t : Text) : Text × Text :=
  let t := without 0x7B (without 0x28 t)
  (t.takeWhile isVariableOctet, without 0x7D (t.dropWhile isVariableOctet))

theorem length_reference (t : Text) : (reference t).2.length ≤ t.length := by
  have h1 := length_without 0x28 t
  have h2 := length_without 0x7B (without 0x28 t)
  have h3 := (List.dropWhile_suffix (l := without 0x7B (without 0x28 t)) isVariableOctet).length_le
  have h4 := length_without 0x7D ((without 0x7B (without 0x28 t)).dropWhile isVariableOctet)
  simp only [reference]
  omega

/-- A value with references to earlier variables replaced. A backslash keeps a dollar sign and what
belongs to it as they are, and is dropped itself. -/
def expand (vars : Environment) : Text → Text
  | [] => []
  | 0x24 :: t =>
    let r := reference t
    if r.1.isEmpty then 0x24 :: t.take (t.length - r.2.length) ++ expand vars r.2
    else (vars.lookup r.1).getD [] ++ expand vars r.2
  | 0x5C :: 0x24 :: t =>
    let r := reference t
    0x24 :: t.take (t.length - r.2.length) ++ expand vars r.2
  | b :: t => b :: expand vars t
termination_by t => t.length
decreasing_by
  · exact Nat.lt_succ_of_le (length_reference t)
  · exact Nat.lt_succ_of_le (length_reference t)
  · exact Nat.lt_succ_of_lt (Nat.lt_succ_of_le (length_reference t))
  · exact Nat.lt_succ_self _

/-- Read the escapes of line ends. -/
def lineEscapes : Text → Text
  | 0x5C :: 0x0A :: t => 0x5C :: 0x0A :: lineEscapes t
  | 0x5C :: 0x6E :: t => 0x0A :: lineEscapes t
  | 0x5C :: 0x72 :: t => 0x0D :: lineEscapes t
  | 0x5C :: b :: t => 0x5C :: b :: lineEscapes t
  | b :: t => b :: lineEscapes t
  | [] => []

/-- Drop the backslash of every other escape but that of a dollar sign. -/
def otherEscapes : Text → Text
  | 0x5C :: b :: t => if b == 0x24 then 0x5C :: b :: otherEscapes t else b :: otherEscapes t
  | b :: t => b :: otherEscapes t
  | [] => []

/-- The part of a line in front of a comment, which follows white space. -/
def beforeComment (last : Option Glyph) : List Glyph → List Glyph
  | [] => []
  | g :: rest =>
    if g == .char '#' && last.any isBlankGlyph then [] else g :: beforeComment (some g) rest

/-- A value without quotes, and the text after it. -/
def plainValue (vars : Environment) (t : Text) : Text × Text :=
  let isEnd (b : UInt8) : Bool := b == 0x0A || b == 0x0D
  let line := beforeComment none (Glyph.read (Text.sanitize (t.takeWhile fun b => !isEnd b)))
  let kept := ((line.dropWhile isBlankGlyph).reverse.dropWhile isBlankGlyph).reverse
  (expand vars (Text.ofGlyphs kept), t.dropWhile fun b => !isEnd b)

/-- The text up to the closing quote, and after it; a quote behind a backslash does not close. -/
def closing (quote : UInt8) (acc : Text) (last : UInt8) : Text → Option (Text × Text)
  | [] => none
  | b :: t =>
    if b == quote && last != 0x5C then some (acc.reverse, t) else closing quote (b :: acc) b t

/-- A value between quotes, and the text after it. Quotes at its ends do not belong to it. -/
def quotedValue? (vars : Environment) (quote : UInt8) (t : Text) : Option (Text × Text) :=
  (closing quote [] quote t).map fun (body, rest) =>
    let body := Text.trim (· == quote) body
    (if quote == 0x22 then expand vars (otherEscapes (lineEscapes body)) else body, rest)

/-- A value, and the text after it. -/
def value? (vars : Environment) (t : Text) : Option (Text × Text) :=
  match t with
  | 0x22 :: rest => quotedValue? vars 0x22 rest
  | 0x27 :: rest => quotedValue? vars 0x27 rest
  | _ => some (plainValue vars t)

/-! ## Files -/

/-- The assignments of a text, after those read so far. Every assignment takes octets, which bounds
`fuel`. -/
def assignments? : (fuel : Nat) → Environment → Text → Option Environment
  | 0, vars, _ => some vars
  | fuel + 1, vars, t =>
    match start? (t.length + 1) t with
    | none => some vars
    | some t =>
      match name? t with
      | none => none
      | some (name, rest) =>
        match value? vars rest with
        | none => none
        | some (value, rest) => assignments? fuel ((name, value) :: vars.filter (·.1 != name)) rest

/-- Line ends of two octets as one. -/
def unixLines : Text → Text
  | 0x0D :: 0x0A :: t => 0x0A :: unixLines t
  | b :: t => b :: unixLines t
  | [] => []

/-- The assignments of a file, the last one first. -/
def parse? (t : Text) : Option Environment :=
  let t := unixLines t
  assignments? (t.length + 1) [] t

/-- An environment with the variables of a file that it does not have yet. -/
def extend (env : Environment) (file : Text) : Environment :=
  match parse? file with
  | none => env
  | some vars => env ++ vars.filter fun p => (env.lookup p.1).isNone

end DetectorStream.EnvironmentFile
