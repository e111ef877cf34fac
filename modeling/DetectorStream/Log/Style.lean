import DetectorStream.Json.Writer
import DetectorStream.Log.Entry
import DetectorStream.Settings.Basic
import DetectorStream.Text.Case

/-!
# How entries are written

Entries below the level of a style are left out. The others become one line each: a JSON object, or
columns for a person to read. In development the levels are in capitals and in colour. Entries about
errors tell where they come from.

* `Style.ofSettings`: the style that settings describe.
* `Style.line`: the line of an entry.
* `Style.columns`: what an entry says in columns, apart from its time and place.
-/

namespace DetectorStream.Log

/-- The level of a name, in lower or upper case. -/
def Level.ofText? (t : Text) : Option Level :=
  let t := Text.toLower t
  all.find? fun l => t == Text.ofString l.name

/-- The form of a line. -/
inductive Form
  | json
  | console
deriving DecidableEq, Repr

/-- How entries are written. -/
structure Style where
  level : Level := .info
  development : Bool := false
  form : Form := .json
deriving DecidableEq, Repr

/-- When and where an entry was made. -/
structure Stamp where
  time : Text
  place : Text
deriving DecidableEq, Repr

namespace Style

/-- The style that settings describe. An empty level is `info`, an empty encoding JSON. -/
def ofSettings (s : LogSettings) : Except Fault Style :=
  match if s.level.isEmpty then some Level.info else Level.ofText? s.level with
  | none =>
    .error (.labelled "invalid log level" (.told ("unrecognized level: " ++ Text.quote s.level)))
  | some level =>
    if s.encoding == "json" || s.encoding.isEmpty then .ok ⟨level, s.development, .json⟩
    else if s.encoding == "console" then .ok ⟨level, s.development, .console⟩
    else
      .error (.labelled "failed to build logger"
        (.told ("no encoder registered for name " ++ Text.quote s.encoding)))

/-- Is an entry of this level written? -/
def takes (s : Style) (l : Level) : Bool := s.level.atLeast l

/-- The colour of a level on a terminal. -/
def colour : Level → Nat
  | .debug => 35
  | .info => 34
  | .warn => 33
  | _ => 31

/-- A level as it is written. -/
def levelText (s : Style) (l : Level) : Text :=
  if s.development then
    Text.ofString "\x1b[" ++ Decimal.ofNat (colour l) ++ "m" ++ Text.toUpperAscii (Text.ofString l.name)
      ++ "\x1b[0m"
  else Text.ofString l.name

/-- A character inside a string. -/
def quoteGlyph : Glyph → Text
  | .stray _ => Json.unitEscape 0xFFFD
  | .char c =>
    let n := c.toNat
    if n == 0x22 then "\\\""
    else if n == 0x5C then "\\\\"
    else if n == 0x0A then "\\n"
    else if n == 0x0D then "\\r"
    else if n == 0x09 then "\\t"
    else if n < 0x20 then Json.unitEscape n
    else Text.ofChar c

/-- A string with its quotes. -/
def quote (t : Text) : Text := 0x22 :: (Glyph.read t).flatMap quoteGlyph ++ [0x22]

/-- A value as it is written. -/
def valueText : Value → Text
  | .text t => quote t
  | .number n => Decimal.ofInt n
  | .flag b => if b then "true" else "false"
  | .duration d => quote d.text
  | .real f =>
    if f.isNaN || f.isInf then quote (FloatStyle.plain.render f) else FloatStyle.plain.render f

/-- An object of values, with or without blanks between its parts. -/
def object (spaced : Bool) (fields : List (Text × Value)) : Text :=
  let blank : Text := if spaced then " " else ""
  let member (p : Text × Value) : Text := quote p.1 ++ ":" ++ blank ++ valueText p.2
  Text.ofString "\x7b" ++ Text.join ("," ++ blank) (fields.map member) ++ "\x7d"

/-- Does an entry of this level tell where it comes from? -/
def isTraced (l : Level) : Bool := Level.error.atLeast l

/-- The line of an entry as an object. -/
def jsonLine (s : Style) (at_ : Stamp) (e : Entry) : Text :=
  object false ([(Text.ofString "level", .text (s.levelText e.level)), ("timestamp", .text at_.time),
    ("caller", .text at_.place), ("message", .text e.message)] ++ e.fields
    ++ if isTraced e.level then [(Text.ofString "stacktrace", .text at_.place)] else [])

/-- What an entry says in columns: level, message, and its values if there are any. -/
def columns (s : Style) (e : Entry) : List Text :=
  [s.levelText e.level, e.message] ++ if e.fields.isEmpty then [] else [object true e.fields]

/-- The line of an entry in columns. -/
def consoleLine (s : Style) (at_ : Stamp) (e : Entry) : Text :=
  let cells := match s.columns e with
    | level :: rest => at_.time :: level :: at_.place :: rest
    | [] => []
  Text.join "\t" cells ++ if isTraced e.level then Text.ofString "\n" ++ at_.place else []

/-- The line of an entry. -/
def line (s : Style) (at_ : Stamp) (e : Entry) : Text :=
  match s.form with
  | .json => s.jsonLine at_ e
  | .console => s.consoleLine at_ e

/-- The lines of all entries that are written. -/
def lines (s : Style) (at_ : Stamp) (es : List Entry) : Text :=
  (es.filter fun e => s.takes e.level).flatMap fun e => s.line at_ e ++ [0x0A]

end Style

end DetectorStream.Log
