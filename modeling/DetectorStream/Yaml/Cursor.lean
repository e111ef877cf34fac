import DetectorStream.Yaml.Writer

/-!
# A place in a text

What is left to read, with the line, the column and the number of characters before it. Line breaks
come in five spellings; all but the two separators of lines and of paragraphs are read as a line
feed.
-/

namespace DetectorStream.Yaml

/-- A place in a text. -/
structure Cursor where
  rest : List Char
  line : Nat := 0
  column : Nat := 0
  index : Nat := 0

namespace Cursor

open Scalar (isBlank isBreak)

/-- The next character. -/
def head? (c : Cursor) : Option Char := c.rest.head?

/-- The character after the next. -/
def second? (c : Cursor) : Option Char := c.rest[1]?

/-- Is the next character `x`? -/
def at_ (x : Char) (c : Cursor) : Bool := c.head? == some x

/-- Pass over one character. -/
def skip (c : Cursor) : Cursor :=
  { c with rest := c.rest.tail, column := c.column + 1, index := c.index + 1 }

/-- Pass over `n` characters of one line. -/
def skips (n : Nat) (c : Cursor) : Cursor :=
  { c with rest := c.rest.drop n, column := c.column + n, index := c.index + n }

/-- The characters up to the first one outside `p`, none of them a line break. -/
def span (p : Char → Bool) (c : Cursor) : List Char × Cursor :=
  let taken := c.rest.takeWhile p
  (taken, c.skips taken.length)

/-- Pass over the characters up to the first one outside `p`, none of them a line break. -/
def skipWhile (p : Char → Bool) (c : Cursor) : Cursor := (c.span p).2

/-- Pass over a line break. -/
def skipLine (c : Cursor) : Cursor :=
  match c.rest with
  | '\r' :: '\n' :: r => ⟨r, c.line + 1, 0, c.index + 2⟩
  | x :: r => if isBreak x then ⟨r, c.line + 1, 0, c.index + 1⟩ else c
  | [] => c

/-- A line break as it is read, and what follows it; nothing where there is none. -/
def readLine (c : Cursor) : List Char × Cursor :=
  match c.head? with
  | some x =>
    if !isBreak x then ([], c)
    else (if x.toNat == 0x2028 || x.toNat == 0x2029 then [x] else ['\n'], c.skipLine)
  | none => ([], c)

/-- Is the character, or the end of the text, no part of a word? -/
def endsWord (x : Option Char) : Bool := x.all fun c => isBlank c || isBreak c

/-- Is the character a space or a tab? -/
def isBlankAt (c : Cursor) : Bool := c.head?.any isBlank

/-- Is the character a line break? -/
def isBreakAt (c : Cursor) : Bool := c.head?.any isBreak

/-- Does the line end here? -/
def lineEnds (c : Cursor) : Bool := c.head?.all isBreak

/-- Does a document marker made of `x` stand here, at the start of a line? -/
def isMarker (x : Char) (c : Cursor) : Bool :=
  c.column == 0 && c.rest.take 3 == [x, x, x] && endsWord c.rest[3]?

/-- Does any document marker stand here? -/
def isDocumentMarker (c : Cursor) : Bool := c.isMarker '-' || c.isMarker '.'

/-- Pass over blanks and line breaks until `index` is reached. -/
def skipTo (index : Nat) : (fuel : Nat) → Cursor → Cursor
  | 0, c => c
  | fuel + 1, c =>
    if index ≤ c.index then c
    else skipTo index fuel (if c.isBreakAt then c.skipLine else c.skip)

/-- Pass over a comment, and over comments on the lines below it. -/
def skipComments : (fuel : Nat) → Cursor → Cursor
  | 0, c => c
  | fuel + 1, c =>
    let c := c.skipWhile fun x => !isBreak x
    let gap := c.rest.takeWhile fun x => isBlank x || isBreak x
    if gap.length < 512 && c.rest[gap.length]? == some '#' then
      skipComments fuel (c.skipTo (c.index + gap.length) gap.length)
    else c

/-- Letters, digits, `_` and `-`. -/
def isNameChar (c : Char) : Bool := c.isAlphanum || c == '_' || c == '-'

end Cursor

end DetectorStream.Yaml
