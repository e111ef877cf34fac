import DetectorStream.Octets.Base64
import DetectorStream.Text.Utf8
import DetectorStream.Yaml.Scalar

/-!
# Writing documents

A document is a list of entries, some of them gathered in sections. A text is written in the
plainest style that reads back as the same text: bare, in single quotes, in double quotes with
escapes, or, when it has several lines, as an indented block.

* `Scalar.style`: the style of a text.
* `Scalar.written`: a text in its style, at a given indentation.
* `Entry.render`: a document.
-/

namespace DetectorStream.Yaml

namespace Scalar

/-- The characters that end a line. -/
def isBreak (c : Char) : Bool :=
  c == '\n' || c == '\r' || c.toNat == 0x85 || c.toNat == 0x2028 || c.toNat == 0x2029

/-- Spaces and tabs. -/
def isBlank (c : Char) : Bool := c == ' ' || c == '\t'

/-- The characters written without an escape. -/
def isPrintable (c : Char) : Bool :=
  let n := c.toNat
  n == 0x0A || (0x20 ≤ n && n ≤ 0x7E) || (0xA0 ≤ n && n ≤ 0xD7FF)
    || (0xE000 ≤ n && n ≤ 0xFFFD && n != 0xFEFF)

/-- The characters of a text; octets that are no characters are passed over. -/
def chars (t : Text) : List Char :=
  (Glyph.read t).filterMap fun
    | .char c => some c
    | .stray _ => none

/-- What the characters of a text rule out. -/
structure Traits where
  /-- An indicator stands where it would be taken for syntax. -/
  indicators : Bool := false
  breaks : Bool := false
  special : Bool := false
  tabs : Bool := false
  /-- A space follows a line break. -/
  breakSpace : Bool := false
  /-- A line break follows a space. -/
  spaceBreak : Bool := false

/-- Indicators that no bare text starts with. -/
def leadingIndicators : List Char :=
  ['#', ',', '[', ']', '\x7b', '\x7d', '&', '*', '!', '|', '>', '\'', '"', '%', '@', '\x60']

/-- Is `c`, between `before` and `after`, taken for syntax? `before` is absent at the start and
`after` at the end of a text. -/
def isIndicator (before : Option Char) (c : Char) (after : Option Char) : Bool :=
  let blankAfter := after.all isBlank
  match before with
  | none => leadingIndicators.elem c || ((c == '?' || c == ':' || c == '-') && blankAfter)
  | some b => (c == ':' && blankAfter) || (c == '#' && (isBlank b || isBreak b || b == '\x00'))

/-- Gather what the characters of a text rule out. -/
def traitsFrom (m : Traits) (before : Option Char) : List Char → Traits
  | [] => m
  | c :: r =>
    let m := { m with
      indicators := m.indicators || isIndicator before c r.head?
      breaks := m.breaks || isBreak c
      special := m.special || (c != '\t' && !isPrintable c)
      tabs := m.tabs || c == '\t'
      breakSpace := m.breakSpace || (c == ' ' && before.any isBreak)
      spaceBreak := m.spaceBreak || (isBreak c && before == some ' ') }
    traitsFrom m (some c) r

/-- What the characters of a text rule out. A text that starts like a document marker is taken for
one. -/
def traits (cs : List Char) : Traits :=
  traitsFrom { indicators := cs.take 3 == ['-', '-', '-'] || cs.take 3 == ['.', '.', '.'] } none cs

/-- The ways to write a text. -/
inductive Style
  | bare
  | single
  | double
  | block
deriving DecidableEq, Repr

/-- The style of a text. -/
def style (t : Text) (cs : List Char) : Style :=
  let m := traits cs
  if cs.elem '\n' then
    if cs.getLast? == some ' ' || m.spaceBreak || m.special then .double else .block
  else if !readsAsText t then .double
  else
    let edge (c : Option Char) := c.any fun c => c == ' ' || isBreak c
    if m.breakSpace || m.spaceBreak || m.tabs || m.special then .double
    else if edge cs.head? || edge cs.getLast? || m.breaks || m.indicators then .single
    else .bare

/-- The escape of a character in double quotes. -/
def escaped (c : Char) : Text :=
  let upperHex (width : Nat) (n : Nat) : Text := Text.toUpperAscii (Text.hex width n)
  match c.toNat with
  | 0x00 => "\\0"
  | 0x07 => "\\a"
  | 0x08 => "\\b"
  | 0x09 => "\\t"
  | 0x0A => "\\n"
  | 0x0B => "\\v"
  | 0x0C => "\\f"
  | 0x0D => "\\r"
  | 0x1B => "\\e"
  | 0x22 => "\\\""
  | 0x5C => "\\\\"
  | 0x85 => "\\N"
  | 0xA0 => "\\_"
  | 0x2028 => "\\L"
  | 0x2029 => "\\P"
  | n =>
    if n ≤ 0xFF then Text.ofString "\\x" ++ upperHex 2 n
    else if n ≤ 0xFFFF then Text.ofString "\\u" ++ upperHex 4 n
    else Text.ofString "\\U" ++ upperHex 8 n

/-- The text in double quotes. -/
def doubleQuoted (cs : List Char) : Text :=
  [0x22] ++ cs.flatMap (fun c =>
    if !isPrintable c || isBreak c || c == '"' || c == '\\' then escaped c else Text.ofChar c)
    ++ [0x22]

/-- Spaces. -/
def spaces (n : Nat) : Text := List.replicate n 0x20

/-- The text in single quotes, quotes in it twice; a new line is indented. -/
def singleQuotedFrom (indent : Nat) (fresh : Bool) : List Char → Text
  | [] => [0x27]
  | c :: r =>
    if isBreak c then Text.ofChar c ++ singleQuotedFrom indent true r
    else (if fresh then spaces indent else []) ++ (if c == '\'' then [0x27] else [])
      ++ Text.ofChar c ++ singleQuotedFrom indent false r

/-- The lines of a block, each indented; `fresh` at the start of one. -/
def blockFrom (indent : Nat) (fresh : Bool) : List Char → Text
  | [] => []
  | c :: r =>
    if isBreak c then Text.ofChar c ++ blockFrom indent true r
    else (if fresh then spaces indent else []) ++ Text.ofChar c ++ blockFrom indent false r

/-- What follows the bar of a block: the indentation when the text starts with white space, and how
the line breaks at its end are to be kept. -/
def blockHints (cs : List Char) : Text :=
  (if cs.head?.any (fun c => c == ' ' || isBreak c) then "4" else "") ++
    (match cs.reverse with
     | [] => ("-" : Text)
     | [c] => if isBreak c then "+" else "-"
     | c :: d :: _ => if !isBreak c then "-" else if isBreak d then "+" else "")

/-- The text as a block. -/
def blocked (indent : Nat) (cs : List Char) : Text :=
  [0x7C] ++ blockHints cs ++ (if cs.head?.any isBreak then [] else [0x0A]) ++ blockFrom indent true cs

/-- A text in a given style. -/
def styled (indent : Nat) (cs : List Char) : Style → Text
  | .bare => cs.flatMap Text.ofChar
  | .single => [0x27] ++ singleQuotedFrom indent false cs
  | .double => doubleQuoted cs
  | .block => blocked indent cs

/-- Lines of seventy characters. -/
def binaryLines : (fuel : Nat) → Text → Text
  | 0, _ => []
  | fuel + 1, t => if t.isEmpty then [] else t.take 70 ++ [0x0A] ++ binaryLines fuel (t.drop 70)

/-- A text at the given indentation. What is no sequence of characters is written in base 64 under
a tag that says so. -/
def written (indent : Nat) (t : Text) : Text :=
  if Text.isUtf8 t then styled indent (chars t) (style t (chars t))
  else
    let code := Base64.encode t
    "!!binary " ++
      if code.length < 70 then code
      else styled indent (chars (binaryLines code.length code)) .block

end Scalar

/-- What an entry of a document holds. -/
inductive Written
  /-- A number or a truth value, written as it is. -/
  | literal (t : Text)
  | text (t : Text)
  | texts (ts : List Text)

/-- An entry of a document. -/
structure Entry where
  /-- The section the entry stands in; empty for none. -/
  group : Text
  name : Text
  value : Written

namespace Entry

/-- End the line, unless it has ended. -/
def lineEnd (t : Text) : Text :=
  if (Scalar.chars t).getLast?.any Scalar.isBreak then t else t ++ [0x0A]

/-- An entry at the given indentation. -/
def line (indent : Nat) (e : Entry) : Text :=
  let head := Scalar.spaces indent ++ e.name ++ Text.ofString ":"
  match e.value with
  | .literal t => head ++ [0x20] ++ t ++ [0x0A]
  | .text t => head ++ [0x20] ++ lineEnd (Scalar.written (indent + 4) t)
  | .texts [] => head ++ Text.ofString " []\n"
  | .texts ts => head ++ [0x0A] ++ ts.flatMap fun t =>
      Scalar.spaces (indent + 4) ++ Text.ofString "- " ++ lineEnd (Scalar.written (indent + 6) t)

/-- Entries in order; a section is named before its first entry. -/
def renderAfter (group : Text) : List Entry → Text
  | [] => []
  | e :: r =>
    (if e.group.isEmpty || e.group == group then [] else e.group ++ Text.ofString ":\n")
      ++ e.line (if e.group.isEmpty then 0 else 4) ++ renderAfter e.group r

/-- A document. -/
def render (es : List Entry) : Text := renderAfter [] es

end Entry

end DetectorStream.Yaml
