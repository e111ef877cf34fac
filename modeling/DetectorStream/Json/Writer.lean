import DetectorStream.Number.Decimal
import DetectorStream.Text.Utf8

/-!
# Writing JSON

Strings are escaped so that they can stand inside markup: besides quotes, backslashes and control
characters, the characters `<`, `>` and `&` and the two line separators are written as escapes. An
octet that belongs to no character is written as an escape for U+FFFD.

* `Json.quote`: a string with its quotes.
* `Json.numbers`: an array of numbers.
* `Json.record`: an object.
-/

namespace DetectorStream.Json

/-- The escape for a code unit. -/
def unitEscape (n : Nat) : Text := "\\u" ++ Text.hex 4 n

/-- A character inside a string. -/
def quoteGlyph : Glyph → Text
  | .stray _ => unitEscape 0xFFFD
  | .char c =>
    let n := c.toNat
    if n == 0x22 then "\\\""
    else if n == 0x5C then "\\\\"
    else if n == 0x0A then "\\n"
    else if n == 0x0D then "\\r"
    else if n == 0x09 then "\\t"
    else if n < 0x20 || n == 0x3C || n == 0x3E || n == 0x26 || n == 0x2028 || n == 0x2029 then
      unitEscape n
    else Text.ofChar c

/-- A string with its quotes. -/
def quote (t : Text) : Text := 0x22 :: (Glyph.read t).flatMap quoteGlyph ++ [0x22]

/-- An array of numbers. -/
def numbers (ns : List Int) : Text := 0x5B :: Text.join "," (ns.map Decimal.ofInt) ++ [0x5D]

/-- An object from the names and the texts of its members. -/
def record (ms : List (Text × Text)) : Text :=
  0x7B :: Text.join "," (ms.map fun (k, v) => quote k ++ [0x3A] ++ v) ++ [0x7D]

end DetectorStream.Json
