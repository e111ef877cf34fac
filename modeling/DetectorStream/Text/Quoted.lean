import DetectorStream.Text.Printable
import DetectorStream.Text.Utf8

/-!
# Quoted text

How a text is shown inside a message: between double quotes, with the quote and the backslash
escaped, the usual control characters by letter, other unprintable characters by number and stray
octets by value. Two texts with the same quoted form are equal.
-/

namespace DetectorStream.Text

/-- The quoted form of one character. -/
def quoteChar (c : Char) : Text :=
  let n := c.toNat
  if n == 0x22 then [0x5C, 0x22]
  else if n == 0x5C then [0x5C, 0x5C]
  else if isPrintable n then ofChar c
  else if n == 0x07 then ofString "\\a"
  else if n == 0x08 then ofString "\\b"
  else if n == 0x0C then ofString "\\f"
  else if n == 0x0A then ofString "\\n"
  else if n == 0x0D then ofString "\\r"
  else if n == 0x09 then ofString "\\t"
  else if n == 0x0B then ofString "\\v"
  else if n < 0x20 || n == 0x7F then ofString "\\x" ++ hex 2 n
  else if n < 0x10000 then ofString "\\u" ++ hex 4 n
  else ofString "\\U" ++ hex 8 n

/-- The quoted form of one glyph. -/
def quoteGlyph : Glyph → Text
  | .char c => quoteChar c
  | .stray b => ofString "\\x" ++ hex 2 b.toNat

/-- The text between double quotes, with everything unprintable escaped. -/
def quote (t : Text) : Text :=
  [0x22] ++ (Glyph.read t).flatMap quoteGlyph ++ [0x22]

end DetectorStream.Text
