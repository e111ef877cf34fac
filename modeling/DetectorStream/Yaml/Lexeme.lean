import DetectorStream.Yaml.Cursor

/-!
# Lexemes with an inside

Scalars, names, tags and directives: what they hold and where they end. Each reader starts at the
first character of its lexeme and gives nothing when the lexeme is malformed.

Inside a scalar a single line break is read as a space and a longer run of breaks as one break
fewer; blanks around them are dropped.
-/

namespace DetectorStream.Yaml

open Scalar (isBlank isBreak)

/-- The blanks and line breaks met since the last word of a scalar. -/
structure Gap where
  /-- Blanks, in reverse, while there was no line break. -/
  blanks : List Char := []
  /-- Was there a line break? -/
  broken : Bool := false
  first : List Char := []
  later : List Char := []

namespace Gap

/-- What a gap with line breaks is read as. -/
def folded (g : Gap) : List Char :=
  if g.first.head? == some '\n' then if g.later.isEmpty then [' '] else g.later
  else g.first ++ g.later

/-- What a gap is read as. -/
def joined (g : Gap) : List Char := if g.broken then g.folded else g.blanks.reverse

/-- Take a line break into a gap. -/
def addBreak (g : Gap) (b : List Char) : Gap :=
  if g.broken then { g with later := g.later ++ b } else { g with blanks := [], broken := true, first := b }

/-- Take the blanks and line breaks at a place. A tab left of `indent` on a later line is refused. -/
def take? (indent : Int) : (fuel : Nat) → Gap → Cursor → Option (Gap × Cursor)
  | 0, g, c => some (g, c)
  | fuel + 1, g, c =>
    match c.head? with
    | some x =>
      if isBlank x then
        if g.broken && (c.column : Int) < indent && x == '\t' then none
        else take? indent fuel (if g.broken then g else { g with blanks := x :: g.blanks }) c.skip
      else if isBreak x then
        let (b, c) := c.readLine
        take? indent fuel (g.addBreak b) c
      else some (g, c)
    | none => some (g, c)

end Gap

/-- A lexeme that was read: its characters in reverse and the place after it. -/
abbrev Taken := List Char × Cursor

namespace Lexeme

/-! ## Plain scalars -/

/-- The length of a word of a plain scalar. -/
def wordLength (flow : Bool) : List Char → Nat
  | [] => 0
  | c :: r =>
    if isBlank c || isBreak c || (c == ':' && Cursor.endsWord r.head?)
      || (flow && [',', '?', '[', ']', '\x7b', '\x7d'].elem c) then 0
    else wordLength flow r + 1

/-- A plain scalar: its text in reverse, the place after it, and whether it ends on a later line
than its last word. -/
def plainFrom (flow : Bool) (indent : Int) :
    (fuel : Nat) → List Char → Gap → Cursor → Option (Taken × Bool)
  | 0, acc, g, c => some ((acc, c), g.broken)
  | fuel + 1, acc, g, c =>
    if c.isDocumentMarker || c.at_ '#' then some ((acc, c), g.broken)
    else
      let n := wordLength flow c.rest
      let (acc, g) := if n == 0 then (acc, g)
        else ((c.rest.take n).reverse ++ (g.joined.reverse ++ acc), ({} : Gap))
      let c := c.skips n
      if !(c.isBlankAt || c.isBreakAt) then some ((acc, c), g.broken)
      else
        match Gap.take? indent c.rest.length g c with
        | none => none
        | some (g, c) =>
          if !flow && (c.column : Int) < indent then some ((acc, c), g.broken)
          else plainFrom flow indent fuel acc g c

/-- A plain scalar inside a block indented by `indent`. -/
def plain (flow : Bool) (indent : Int) (c : Cursor) : Option (Taken × Bool) :=
  plainFrom flow (indent + 1) (c.rest.length + 1) [] {} c

/-! ## Quoted scalars -/

/-- The characters that an escape stands for. -/
def simpleEscape? (x : Char) : Option Char :=
  match x with
  | '0' => some '\x00'
  | 'a' => some '\x07'
  | 'b' => some '\x08'
  | 't' | '\t' => some '\t'
  | 'n' => some '\n'
  | 'v' => some '\x0b'
  | 'f' => some '\x0c'
  | 'r' => some '\r'
  | 'e' => some '\x1b'
  | ' ' => some ' '
  | '"' => some '"'
  | '\'' => some '\''
  | '\\' => some '\\'
  | 'N' => some (Char.ofNat 0x85)
  | '_' => some (Char.ofNat 0xA0)
  | 'L' => some (Char.ofNat 0x2028)
  | 'P' => some (Char.ofNat 0x2029)
  | _ => none

/-- How many digits follow an escape that gives a code point. -/
def codeLength? (x : Char) : Option Nat :=
  match x with
  | 'x' => some 2
  | 'u' => some 4
  | 'U' => some 8
  | _ => none

/-- The code point written by hexadecimal digits. -/
def code? (ds : List Char) (width : Nat) : Option Char := do
  if ds.length != width then none
  else
    let n ← ds.foldlM (fun (n : Nat) d => (Text.hexValue? d.toNat.toUInt8).bind fun v =>
      if d.toNat < 0x80 then some (n * 16 + v) else none) 0
    if (0xD800 ≤ n && n ≤ 0xDFFF) || 0x10FFFF < n then none else some (Char.ofNat n)

/-- The characters of a quoted scalar up to a blank, a line break or the closing quote. The flag
tells that an escaped line break was passed. -/
def quotedRun (single : Bool) : (fuel : Nat) → List Char → Cursor → Option (Taken × Bool)
  | 0, acc, c => some ((acc, c), false)
  | fuel + 1, acc, c =>
    match c.head? with
    | none => some ((acc, c), false)
    | some x =>
      if isBlank x || isBreak x then some ((acc, c), false)
      else if single && x == '\'' then
        if c.second? == some '\'' then quotedRun single fuel ('\'' :: acc) (c.skips 2)
        else some ((acc, c), false)
      else if !single && x == '"' then some ((acc, c), false)
      else if !single && x == '\\' then
        match c.second? with
        | none => none
        | some y =>
          if isBreak y then some ((acc, c.skip.skipLine), true)
          else
            match simpleEscape? y with
            | some z => quotedRun single fuel (z :: acc) (c.skips 2)
            | none =>
              match codeLength? y with
              | none => none
              | some w =>
                match code? ((c.rest.drop 2).take w) w with
                | none => none
                | some z => quotedRun single fuel (z :: acc) (c.skips (2 + w))
      else quotedRun single fuel (x :: acc) c.skip

/-- The inside of a quoted scalar. -/
def quotedFrom (single : Bool) : (fuel : Nat) → List Char → Cursor → Option Taken
  | 0, _, _ => none
  | fuel + 1, acc, c =>
    if c.isDocumentMarker || c.rest.isEmpty then none
    else
      match quotedRun single c.rest.length acc c with
      | none => none
      | some ((acc, c), escaped) =>
        if c.at_ (if single then '\'' else '"') then some (acc, c.skip)
        else
          match Gap.take? 0 c.rest.length { broken := escaped } c with
          | none => none
          | some (g, c) => quotedFrom single fuel (g.joined.reverse ++ acc) c

/-- A quoted scalar. -/
def quoted (single : Bool) (c : Cursor) : Option Taken :=
  quotedFrom single (c.rest.length + 1) [] c.skip

/-! ## Blocks -/

/-- The indentation and the empty lines in front of a line of a block, with the deepest column
reached. An indentation of 0 is not yet known. -/
def blockBreaks (indent : Nat) :
    (fuel : Nat) → (deepest : Nat) → List Char → Cursor → Option (Nat × List Char × Cursor)
  | 0, deepest, bs, c => some (deepest, bs, c)
  | fuel + 1, deepest, bs, c =>
    let blanks := c.rest.takeWhile (· == ' ')
    let c := c.skips (if indent == 0 then blanks.length else min blanks.length (indent - c.column))
    let deepest := max deepest c.column
    if (indent == 0 || c.column < indent) && c.at_ '\t' then none
    else if c.isBreakAt then
      let (b, c) := c.readLine
      blockBreaks indent fuel deepest (bs ++ b) c
    else some (deepest, bs, c)

/-- The lines of a block. -/
def blockLines (literal : Bool) (indent : Nat) :
    (fuel : Nat) → List Char → (first later : List Char) → (blankBefore : Bool) → Cursor →
      Option (List Char × List Char × List Char × Cursor)
  | 0, acc, first, later, _, c => some (acc, first, later, c)
  | fuel + 1, acc, first, later, blankBefore, c =>
    if c.column != indent || c.rest.isEmpty then some (acc, first, later, c)
    else
      let blank := c.isBlankAt
      let join := if !literal && !blankBefore && !blank && first.head? == some '\n' then
          if later.isEmpty then [' '] else []
        else first
      let (text, c) := c.span fun x => !isBreak x
      let acc := text.reverse ++ (later.reverse ++ (join.reverse ++ acc))
      let (first, c) := c.readLine
      match blockBreaks indent c.rest.length 0 [] c with
      | none => none
      | some (_, later, c) => blockLines literal indent fuel acc first later blank c

/-- The header of a block: whether breaks at its end are dropped or kept, and its indentation. -/
def blockHeader (c : Cursor) : Option (Option Bool × Nat × Cursor) :=
  let mark (c : Cursor) : Option Bool × Cursor :=
    if c.at_ '+' then (some true, c.skip) else if c.at_ '-' then (some false, c.skip) else (none, c)
  let depth (c : Cursor) : Option (Nat × Cursor) :=
    match c.head? with
    | some x =>
      if !x.isDigit then some (0, c)
      else if x == '0' then none
      else some (x.toNat - 0x30, c.skip)
    | none => some (0, c)
  match mark c with
  | (some keep, c) => (depth c).map fun (n, c) => (some keep, n, c)
  | (none, c) =>
    (depth c).map fun (n, c) =>
      if n == 0 then (none, n, c) else
        let (keep, c) := mark c
        (keep, n, c)

/-- A block, literal or folded, inside a block indented by `indent`. -/
def block (literal : Bool) (indent : Int) (c : Cursor) : Option Taken :=
  match blockHeader c.skip with
  | none => none
  | some (keep, increment, c) =>
    let c := c.skipWhile isBlank
    let c := if c.at_ '#' then c.skipWhile (fun x => !isBreak x) else c
    if !c.lineEnds then none
    else
      let c := c.skipLine
      let known := if increment == 0 then 0 else (max indent 0).toNat + increment
      match blockBreaks known (c.rest.length + 1) 0 [] c with
      | none => none
      | some (deepest, breaks, c) =>
        let depth := if known != 0 then known else max (max deepest (indent + 1).toNat) 1
        match blockLines literal depth (c.rest.length + 1) [] [] breaks false c with
        | none => none
        | some (acc, first, later, c) =>
          let tail := match keep with
            | some false => []
            | none => first
            | some true => first ++ later
          some (tail.reverse ++ acc, c)

/-! ## Names, tags and directives -/

/-- The name of an anchor, after its mark. -/
def name (c : Cursor) : Option (List Char × Cursor) :=
  let (n, c) := c.span Cursor.isNameChar
  if n.isEmpty then none
  else if Cursor.endsWord c.head? || c.head?.any ['?', ':', ',', ']', '\x7d', '%', '@', '\x60'].elem then
    some (n, c)
  else none

/-- Characters of a tag, besides letters, digits, `_` and `-`. -/
def tagMarks : List Char :=
  [';', '/', '?', ':', '@', '&', '=', '+', '$', ',', '.', '!', '~', '*', '\'', '(', ')', '[', ']']

/-- The body of a tag; an escape gives one octet. -/
def tagBody : (fuel : Nat) → Text → Cursor → Option (Text × Cursor)
  | 0, acc, c => some (acc, c)
  | fuel + 1, acc, c =>
    match c.rest with
    | '%' :: x :: y :: _ =>
      match Text.hexValue? x.toNat.toUInt8, Text.hexValue? y.toNat.toUInt8 with
      | some h, some l => tagBody fuel (acc ++ [(h * 16 + l).toUInt8]) (c.skips 3)
      | _, _ => none
    | '%' :: _ => none
    | x :: _ =>
      if Cursor.isNameChar x || tagMarks.elem x then tagBody fuel (acc ++ Text.ofChar x) c.skip
      else some (acc, c)
    | [] => some (acc, c)

/-- A handle: `!`, `!!` or `!name!`. -/
def tagHandle (c : Cursor) : Text × Cursor :=
  let (n, c) := c.skip.span Cursor.isNameChar
  let h := 0x21 :: n.flatMap Text.ofChar
  if c.at_ '!' then (h ++ [0x21], c.skip) else (h, c)

/-- A tag: its handle and what follows the handle. -/
def tag (c : Cursor) : Option (Text × Text × Cursor) := do
  let (handle, suffix, c) ←
    if c.second? == some '<' then do
      let (body, c) ← tagBody c.rest.length [] (c.skips 2)
      if body.isEmpty || !c.at_ '>' then none else some (([] : Text), body, c.skip)
    else do
      let (h, c) := tagHandle c
      if 1 < h.length && h.getLast? == some 0x21 then do
        let (body, c) ← tagBody c.rest.length [] c
        if body.isEmpty then none else some (h, body, c)
      else do
        let (body, c) ← tagBody c.rest.length (h.drop 1) c
        if body.isEmpty then some (([] : Text), ([0x21] : Text), c) else some (([0x21] : Text), body, c)
  if Cursor.endsWord c.head? then some (handle, suffix, c) else none

/-- A line that says how the document is to be read. -/
inductive Directive
  | version (major minor : Nat)
  | tag (handle expansion : Text)

/-- Pass over the rest of a line on which nothing but a comment may follow. -/
def endOfLine (c : Cursor) : Option Cursor :=
  let c := c.skipWhile isBlank
  let c := if c.at_ '#' then c.skipWhile (fun x => !isBreak x) else c
  if c.lineEnds then some c.skipLine else none

/-- A decimal number of at most nine digits. -/
def versionPart (c : Cursor) : Option (Nat × Cursor) :=
  let (ds, c) := c.span Char.isDigit
  if ds.isEmpty || 9 < ds.length then none
  else some (ds.foldl (fun n d => n * 10 + (d.toNat - 0x30)) 0, c)

/-- A directive. -/
def directive (c : Cursor) : Option (Directive × Cursor) := do
  let (n, c) := c.skip.span Cursor.isNameChar
  if !Cursor.endsWord c.head? then none
  else if n == "YAML".toList then do
    let (major, c) ← versionPart (c.skipWhile isBlank)
    if !c.at_ '.' then none
    else do
      let (minor, c) ← versionPart c.skip
      let c ← endOfLine c
      some (.version major minor, c)
  else if n == "TAG".toList then do
    let c := c.skipWhile isBlank
    if !c.at_ '!' then none
    else do
      let (h, c) := tagHandle c
      if (h.length != 1 && h.getLast? != some 0x21) || !c.isBlankAt then none
      else do
        let (body, c) ← tagBody c.rest.length [] (c.skipWhile isBlank)
        if body.isEmpty || !Cursor.endsWord c.head? then none
        else do
          let c ← endOfLine c
          some (.tag h body, c)
  else none

end Lexeme

end DetectorStream.Yaml
