import DetectorStream.Text.Basic

/-!
# UTF-8

A text is read as a list of **glyphs**: a character where the octets are a well-formed encoding,
and a stray octet where they are not. Reading takes the longest well-formed encoding at each place
and otherwise one octet, so every octet belongs to exactly one glyph.

* `Glyph.next`: the first glyph of a non-empty text and the rest.
* `Glyph.read`: all glyphs of a text.
* `Text.isUtf8`: is every glyph a character?
* `Text.sanitize`: the text with every stray octet replaced by U+FFFD.
-/

namespace DetectorStream

/-- A character, or an octet that belongs to no well-formed encoding. -/
inductive Glyph
  | char (c : Char)
  | stray (b : UInt8)
deriving DecidableEq, Repr

namespace Text

/-- The UTF-8 encoding of a character. -/
def ofChar (c : Char) : Text :=
  let n := c.toNat
  if n < 0x80 then [n.toUInt8]
  else if n < 0x800 then [(0xC0 + n / 0x40).toUInt8, (0x80 + n % 0x40).toUInt8]
  else if n < 0x10000 then
    [(0xE0 + n / 0x1000).toUInt8, (0x80 + n / 0x40 % 0x40).toUInt8, (0x80 + n % 0x40).toUInt8]
  else
    [(0xF0 + n / 0x40000).toUInt8, (0x80 + n / 0x1000 % 0x40).toUInt8,
      (0x80 + n / 0x40 % 0x40).toUInt8, (0x80 + n % 0x40).toUInt8]

/-- The encoding of U+FFFD, which stands for what is not a character. -/
def replacement : Text := [0xEF, 0xBF, 0xBD]

end Text

namespace Glyph

/-- What a leading octet announces: how many octets follow, the range of the first of them, and
the bits the leading octet contributes. -/
structure Lead where
  extra : Nat
  lo : UInt8
  hi : UInt8
  bits : Nat

/-- The announcement of a leading octet; `none` for an octet that starts no encoding. -/
def lead? (b : UInt8) : Option Lead :=
  if b < 0x80 then some ⟨0, 0x80, 0xBF, b.toNat⟩
  else if b < 0xC2 then none
  else if b < 0xE0 then some ⟨1, 0x80, 0xBF, b.toNat - 0xC0⟩
  else if b < 0xF0 then
    some ⟨2, if b == 0xE0 then 0xA0 else 0x80, if b == 0xED then 0x9F else 0xBF, b.toNat - 0xE0⟩
  else if b < 0xF5 then
    some ⟨3, if b == 0xF0 then 0x90 else 0x80, if b == 0xF4 then 0x8F else 0xBF, b.toNat - 0xF0⟩
  else none

/-- Gather `extra` continuation octets onto the bits read so far; only the first of them has a
range of its own. -/
def gather? : (extra : Nat) → (lo hi : UInt8) → (bits : Nat) → Text → Option (Nat × Text)
  | 0, _, _, bits, t => some (bits, t)
  | _ + 1, _, _, _, [] => none
  | n + 1, lo, hi, bits, b :: t =>
    if Text.within lo hi b then gather? n 0x80 0xBF (bits * 0x40 + (b.toNat - 0x80)) t else none

theorem length_gather? : ∀ {extra : Nat} {lo hi : UInt8} {bits : Nat} {t : Text} {r : Nat × Text},
    gather? extra lo hi bits t = some r → r.2.length ≤ t.length
  | 0, _, _, _, _, r, h => by simp only [gather?, Option.some.injEq] at h; subst h; exact Nat.le_refl _
  | _ + 1, _, _, _, [], r, h => by simp [gather?] at h
  | n + 1, lo, hi, bits, b :: t, r, h => by
    simp only [gather?] at h
    split at h
    · exact Nat.le_trans (length_gather? h) (Nat.le_succ _)
    · cases h

/-- The glyph that starts with the octet `b`, and the text after it. -/
def next (b : UInt8) (t : Text) : Glyph × Text :=
  match lead? b with
  | none => (stray b, t)
  | some l =>
    match gather? l.extra l.lo l.hi l.bits t with
    | some (n, rest) => (char (Char.ofNat n), rest)
    | none => (stray b, t)

theorem length_next (b : UInt8) (t : Text) : (next b t).2.length ≤ t.length := by
  unfold next
  split
  · exact Nat.le_refl _
  · split
    · rename_i h
      exact length_gather? h
    · exact Nat.le_refl _

/-- The glyphs of a text, put in front of nothing and gathered in reverse. -/
def readOnto (acc : List Glyph) : Text → List Glyph
  | [] => acc.reverse
  | b :: t => readOnto ((next b t).1 :: acc) (next b t).2
termination_by t => t.length
decreasing_by exact Nat.lt_succ_of_le (length_next b t)

/-- The glyphs of a text. -/
def read (t : Text) : List Glyph := readOnto [] t

/-- Is the glyph a character? -/
def isChar : Glyph → Bool
  | char _ => true
  | stray _ => false

/-- The octets of a glyph. -/
def text : Glyph → Text
  | char c => Text.ofChar c
  | stray b => [b]

/-- The code point of a glyph, U+FFFD for a stray octet. -/
def code : Glyph → Nat
  | char c => c.toNat
  | stray _ => 0xFFFD

end Glyph

namespace Text

/-- Is the text well-formed UTF-8? -/
def isUtf8 (t : Text) : Bool := (Glyph.read t).all Glyph.isChar

/-- The text with every stray octet replaced by U+FFFD. -/
def sanitize (t : Text) : Text :=
  (Glyph.read t).flatMap fun
    | .char c => ofChar c
    | .stray _ => replacement

/-- Characters that count as white space. -/
def isSpace (n : Nat) : Bool :=
  (0x09 ≤ n && n ≤ 0x0D) || n == 0x20 || n == 0x85 || n == 0xA0 || n == 0x1680
    || (0x2000 ≤ n && n ≤ 0x200A) || n == 0x2028 || n == 0x2029 || n == 0x202F || n == 0x205F
    || n == 0x3000

/-- The glyph is white space. -/
def isSpaceGlyph : Glyph → Bool
  | .char c => isSpace c.toNat
  | .stray _ => false

/-- The octets of a list of glyphs. -/
def ofGlyphs (gs : List Glyph) : Text := gs.flatMap Glyph.text

/-- Drop white space from the start. -/
def trimLeftSpace (t : Text) : Text :=
  ofGlyphs ((Glyph.read t).dropWhile isSpaceGlyph)

/-- Drop white space from both ends. -/
def trimSpace (t : Text) : Text :=
  ofGlyphs (((Glyph.read t).dropWhile isSpaceGlyph).reverse.dropWhile isSpaceGlyph).reverse

end Text

end DetectorStream
