import DetectorStream.Yaml.Lexeme

/-!
# Tokens

A document as a list of tokens. Indentation is turned into tokens that open and close blocks. That
a scalar is a key shows only at the colon after it, so its token is marked as a key afterwards; a
key and its colon stand on one line, at most 1024 characters apart.

Reading stops at the first thing that is no token. The tokens before it are kept: a reader that
needs no more than those never learns of it.

* `Token.scan`: the tokens of a text.
-/

namespace DetectorStream.Yaml

/-- A token. -/
inductive Token
  | documentStart
  | documentEnd
  | directive (d : Lexeme.Directive)
  | blockSequenceStart
  | blockMappingStart
  | blockEnd
  | flowSequenceStart
  | flowSequenceEnd
  | flowMappingStart
  | flowMappingEnd
  | blockEntry
  | flowEntry
  | key
  | value
  | repeated (name : Text)
  | anchor (name : Text)
  | tag (handle suffix : Text)
  | scalar (text : Text) (plain : Bool)
  | streamEnd

/-- A scalar or collection that may turn out to be a key. -/
structure Candidate where
  /-- Nothing else than a key may stand here. -/
  required : Bool
  /-- The number of tokens before it. -/
  number : Nat
  line : Nat
  column : Nat
  index : Nat

/-- What is known while tokens are read. -/
structure Scanner where
  cursor : Cursor
  tokens : Array Token := #[]
  /-- The column of the current block, and of those around it. -/
  indent : Int := -1
  indents : List Int := []
  /-- May a key start here? -/
  keyAllowed : Bool := true
  /-- The candidate of the current bracket, or of the block outside all brackets. -/
  candidate : Option Candidate := none
  /-- The candidates of the brackets around the current one. -/
  outer : List (Option Candidate) := []

namespace Scanner

open Scalar (isBlank isBreak)

/-- Inside brackets? -/
def inFlow (s : Scanner) : Bool := !s.outer.isEmpty

/-- Add a token. -/
def push (s : Scanner) (t : Token) : Scanner := { s with tokens := s.tokens.push t }

/-- Pass over white space and comments. -/
def toNext : (fuel : Nat) → Scanner → Scanner
  | 0, s => s
  | fuel + 1, s =>
    let c := s.cursor
    let c := if c.column == 0 && c.at_ (Char.ofNat 0xFEFF) then c.skip else c
    let c := c.skipWhile fun x => x == ' ' || ((s.inFlow || !s.keyAllowed) && x == '\t')
    let c := if c.at_ '#' then c.skipComments c.rest.length else c
    if c.isBreakAt then
      toNext fuel { s with cursor := c.skipLine, keyAllowed := s.keyAllowed || !s.inFlow }
    else { s with cursor := c }

/-- Close the blocks that are indented further than `column`. -/
def unroll (s : Scanner) (column : Int) : Scanner :=
  if s.inFlow then s
  else
    let closed := (s.indent :: s.indents).takeWhile fun i => column < i
    let left := (s.indent :: s.indents).drop closed.length
    { s with
      tokens := s.tokens ++ Array.replicate closed.length .blockEnd
      indent := left.headD (-1)
      indents := left.tail }

/-- Open a block at `column`, if it is indented further than the current one, with its token in
front of token number `number`. -/
def roll (s : Scanner) (column number : Nat) (t : Token) : Scanner :=
  if s.inFlow || (column : Int) ≤ s.indent then s
  else { s with
    indent := column
    indents := s.indent :: s.indents
    tokens := s.tokens.insertIdxIfInBounds number t }

/-- Give up the candidate. One that was required is missed. -/
def dropCandidate (s : Scanner) : Option Scanner :=
  match s.candidate with
  | some k => if k.required then none else some { s with candidate := none }
  | none => some s

/-- Note that what starts here may be a key. -/
def saveCandidate (s : Scanner) : Option Scanner :=
  if !s.keyAllowed then some s
  else s.dropCandidate.map fun s =>
    let c := s.cursor
    let k : Candidate :=
      ⟨!s.inFlow && s.indent == (c.column : Int), s.tokens.size, c.line, c.column, c.index⟩
    { s with candidate := some k }

/-- The candidate, if it is still near enough. One that was required is missed. -/
def liveCandidate (s : Scanner) : Option (Option Candidate) :=
  match s.candidate with
  | none => some none
  | some k =>
    if k.line < s.cursor.line || k.index + 1024 < s.cursor.index then
      if k.required then none else some none
    else some (some k)

/-- The end of the text. -/
def finish (s : Scanner) : Option Scanner :=
  ((s.unroll (-1)).dropCandidate).map fun s => { s with keyAllowed := false }.push .streamEnd

/-- A line of its own that has to do with whole documents. -/
def betweenDocuments (s : Scanner) : Option Scanner :=
  ((s.unroll (-1)).dropCandidate).map fun s => { s with keyAllowed := false }

/-- An opening bracket. -/
def openFlow (s : Scanner) (t : Token) : Option Scanner :=
  s.saveCandidate.map fun s =>
    { s with
      outer := s.candidate :: s.outer
      candidate := none
      keyAllowed := true
      cursor := s.cursor.skip }.push t

/-- A closing bracket. -/
def closeFlow (s : Scanner) (t : Token) : Option Scanner :=
  s.dropCandidate.map fun s =>
    { s with
      candidate := s.outer.headD s.candidate
      outer := s.outer.tail
      keyAllowed := false
      cursor := s.cursor.skip }.push t

/-- A comma between brackets. -/
def flowEntry (s : Scanner) : Option Scanner :=
  s.dropCandidate.map fun s => { s with keyAllowed := true, cursor := s.cursor.skip }.push .flowEntry

/-- A dash in front of an item. -/
def blockEntry (s : Scanner) : Option Scanner :=
  if !s.inFlow && !s.keyAllowed then none
  else
    let s := s.roll s.cursor.column s.tokens.size .blockSequenceStart
    s.dropCandidate.map fun s => { s with keyAllowed := true, cursor := s.cursor.skip }.push .blockEntry

/-- A question mark in front of a key. -/
def explicitKey (s : Scanner) : Option Scanner :=
  if !s.inFlow && !s.keyAllowed then none
  else
    let s := s.roll s.cursor.column s.tokens.size .blockMappingStart
    s.dropCandidate.map fun s => { s with keyAllowed := !s.inFlow, cursor := s.cursor.skip }.push .key

/-- A colon: it makes a key of the candidate, or follows a key that was marked by itself. -/
def value (s : Scanner) : Option Scanner :=
  match s.liveCandidate with
  | none => none
  | some (some k) =>
    let s := { s with tokens := s.tokens.insertIdxIfInBounds k.number .key }
    let s := s.roll k.column k.number .blockMappingStart
    some ({ s with candidate := none, keyAllowed := false, cursor := s.cursor.skip }.push .value)
  | some none =>
    let s := { s with candidate := none }
    if !s.inFlow && !s.keyAllowed then none
    else
      let s := s.roll s.cursor.column s.tokens.size .blockMappingStart
      some ({ s with keyAllowed := !s.inFlow, cursor := s.cursor.skip }.push .value)

/-- The characters of a lexeme, taken in reverse. -/
def ofReversed (cs : List Char) : Text := cs.reverse.flatMap Text.ofChar

/-- A lexeme that may be a key, read by `read`. -/
def keyLike (s : Scanner) (read : Cursor → Option (Token × Cursor)) : Option Scanner := do
  let s ← s.saveCandidate
  let (t, c) ← read s.cursor
  some ({ s with keyAllowed := false, cursor := c }.push t)

/-- A block of text. -/
def block (s : Scanner) (literal : Bool) : Option Scanner := do
  let s ← s.dropCandidate
  let (text, c) ← Lexeme.block literal s.indent s.cursor
  some ({ s with keyAllowed := true, cursor := c }.push (.scalar (ofReversed text) false))

/-- A plain scalar. -/
def plain (s : Scanner) : Option Scanner := do
  let s ← s.saveCandidate
  let ((text, c), moved) ← Lexeme.plain s.inFlow s.indent s.cursor
  some ({ s with keyAllowed := moved, cursor := c }.push (.scalar (ofReversed text) true))

/-- Characters that start no plain scalar. -/
def notPlain : List Char :=
  ['-', '?', ':', ',', '[', ']', '\x7b', '\x7d', '#', '&', '*', '!', '|', '>', '\'', '"', '%', '@', '\x60']

/-- May a plain scalar start with `x` before `y`? -/
def startsPlain (s : Scanner) (x : Char) (y : Option Char) : Bool :=
  !(isBlank x || isBreak x || notPlain.elem x)
    || (x == '-' && !y.any isBlank)
    || ((x == '?' || x == ':') && !s.inFlow && !Cursor.endsWord y)

/-- One token; nothing for what is none. -/
def next (s : Scanner) : Option Scanner :=
  let s := s.toNext (s.cursor.rest.length + 1)
  let s := s.unroll s.cursor.column
  let c := s.cursor
  match c.head? with
  | none => s.finish
  | some x =>
    let y := c.second?
    let alone := s.inFlow || Cursor.endsWord y
    if c.column == 0 && x == '%' then do
      let s ← s.betweenDocuments
      let (d, c) ← Lexeme.directive c
      some ({ s with cursor := c }.push (.directive d))
    else if c.isMarker '-' then
      s.betweenDocuments.map fun s => { s with cursor := c.skips 3 }.push .documentStart
    else if c.isMarker '.' then
      s.betweenDocuments.map fun s => { s with cursor := c.skips 3 }.push .documentEnd
    else if x == '[' then s.openFlow .flowSequenceStart
    else if x == '\x7b' then s.openFlow .flowMappingStart
    else if x == ']' then s.closeFlow .flowSequenceEnd
    else if x == '\x7d' then s.closeFlow .flowMappingEnd
    else if x == ',' then s.flowEntry
    else if x == '-' && Cursor.endsWord y then s.blockEntry
    else if x == '?' && alone then s.explicitKey
    else if x == ':' && alone then s.value
    else if x == '*' then
      s.keyLike fun c => (Lexeme.name c.skip).map fun (n, c) => (.repeated (n.flatMap Text.ofChar), c)
    else if x == '&' then
      s.keyLike fun c => (Lexeme.name c.skip).map fun (n, c) => (.anchor (n.flatMap Text.ofChar), c)
    else if x == '!' then s.keyLike fun c => (Lexeme.tag c).map fun (h, t, c) => (.tag h t, c)
    else if x == '|' && !s.inFlow then s.block true
    else if x == '>' && !s.inFlow then s.block false
    else if x == '\'' then
      s.keyLike fun c => (Lexeme.quoted true c).map fun (t, c) => (.scalar (ofReversed t) false, c)
    else if x == '"' then
      s.keyLike fun c => (Lexeme.quoted false c).map fun (t, c) => (.scalar (ofReversed t) false, c)
    else if s.startsPlain x y then s.plain
    else none

/-- All tokens, and whether something that is no token stands after them. -/
def run : (fuel : Nat) → Scanner → List Token × Bool
  | 0, s => (s.tokens.toList, true)
  | fuel + 1, s =>
    let done := s.cursor.rest.isEmpty
    match s.next with
    | none => (s.tokens.toList, true)
    | some s => if done then (s.tokens.toList, false) else run fuel s

end Scanner

/-- Tokens still to be read. -/
structure Tokens where
  list : List Token
  /-- Does something that is no token follow? -/
  broken : Bool

namespace Tokens

/-- The next token. Two more are looked at along with it. -/
def peek (ts : Tokens) : Option Token :=
  if ts.broken && ts.list.length < 3 then none else some (ts.list.headD .streamEnd)

/-- The tokens after the next. -/
def tail (ts : Tokens) : Tokens := { ts with list := ts.list.tail }

end Tokens

/-- The characters a document may hold. -/
def Token.isAllowed (c : Char) : Bool :=
  let n := c.toNat
  n == 0x09 || n == 0x0A || n == 0x0D || (0x20 ≤ n && n ≤ 0x7E) || n == 0x85
    || (0xA0 ≤ n && n ≤ 0xD7FF) || (0xE000 ≤ n && n ≤ 0xFFFD) || 0x10000 ≤ n

/-- The tokens of a text. A mark of the byte order in front is passed over. -/
def Token.scan (t : Text) : Option Tokens :=
  let t := if Text.startsWith [0xEF, 0xBB, 0xBF] t then t.drop 3 else t
  let cs := Scalar.chars t
  if !Text.isUtf8 t || !cs.all Token.isAllowed then none
  else
    let (list, broken) := Scanner.run (cs.length + 2) { cursor := { rest := cs } }
    some ⟨list, broken⟩

end DetectorStream.Yaml
