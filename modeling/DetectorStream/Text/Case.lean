import DetectorStream.Text.Utf8

/-!
# Comparing with ASCII names in any case

A name is looked up in a table of ASCII names after lower-casing it. Besides the ASCII letters,
exactly two characters have an ASCII lower case: `İ` (to `i`) and the Kelvin sign (to `k`). No
other character can turn into part of an ASCII name, so the rest may stay as it is.
-/

namespace DetectorStream.Text

/-- The lower case of a glyph, as far as it is ASCII. -/
def lowerGlyph : Glyph → Text
  | .char c =>
    if c.toNat == 0x130 then [0x69]
    else if c.toNat == 0x212A then [0x6B]
    else (ofChar c).map lowerOctet
  | .stray _ => replacement

/-- The text in lower case, exact wherever the result is ASCII. -/
def toLower (t : Text) : Text :=
  if t.all (· < 0x80) then toLowerAscii t else (Glyph.read t).flatMap lowerGlyph

end DetectorStream.Text
