import DetectorStream.Text.Utf8
import Mathlib.Logic.Basic

/-!
# Glyphs and octets

Reading a text as glyphs loses no octet: a character that is read is written again with the octets
it was read from. So a text that is well-formed has nothing to be replaced.

* **`Glyph.text_next`**: the first glyph of a text and what follows it make up the text.
* `Glyph.read_cons`: the glyphs of a text are those of its first glyph and the rest.
* **`Text.ofGlyphs_read`**: the octets of all glyphs make up the text.
* **`Text.sanitize_eq`**: a well-formed text is left as it is.
-/

namespace DetectorStream

namespace Glyph

variable {n k bits : Nat} {lo hi b : UInt8} {t rest : Text}

/-! ## One glyph -/

theorem within_iff : Text.within lo hi b = true ↔ lo.toNat ≤ b.toNat ∧ b.toNat ≤ hi.toNat := by
  simp [Text.within, UInt8.le_iff_toNat_le]

/-- A character with octets to come takes the next one, which lies in its range. -/
theorem gather?_succ (h : gather? (k + 1) lo hi bits t = some (n, rest)) :
    ∃ c t', t = c :: t' ∧ lo.toNat ≤ c.toNat ∧ c.toNat ≤ hi.toNat ∧
      gather? k 0x80 0xBF (bits * 0x40 + (c.toNat - 0x80)) t' = some (n, rest) := by
  cases t with
  | nil => cases h
  | cons c t =>
    rw [gather?] at h
    split at h
    · rename_i hc
      obtain ⟨hlo, hhi⟩ := within_iff.mp hc
      exact ⟨c, t, rfl, hlo, hhi, h⟩
    · cases h

theorem gather?_zero (h : gather? 0 lo hi bits t = some (n, rest)) : n = bits ∧ rest = t := by
  cases h
  exact ⟨rfl, rfl⟩

theorem toUInt8_eq {n : Nat} (h : n = b.toNat) : n.toUInt8 = b := by
  rw [h, Nat.toUInt8_eq, UInt8.ofNat_toNat]

theorem toNat_ofNat (h : n.isValidChar) : (Char.ofNat n).toNat = n := by
  unfold Char.ofNat
  rw [dif_pos h]
  rfl

/-! The encodings of one to four octets, each in terms of the octets themselves. -/

theorem ofChar_one (hb : b.toNat < 0x80) : Text.ofChar (Char.ofNat b.toNat) = [b] := by
  have hchar : (Char.ofNat b.toNat).toNat = b.toNat := toNat_ofNat (Or.inl (by omega))
  unfold Text.ofChar
  simp only [hchar]
  rw [if_pos hb, toUInt8_eq rfl]

theorem ofChar_two {c : UInt8} (hb : 0xC2 ≤ b.toNat) (hb' : b.toNat < 0xE0)
    (hc : 0x80 ≤ c.toNat) (hc' : c.toNat ≤ 0xBF)
    (hn : n = (b.toNat - 0xC0) * 0x40 + (c.toNat - 0x80)) :
    Text.ofChar (Char.ofNat n) = [b, c] := by
  have hchar : (Char.ofNat n).toNat = n := toNat_ofNat (Or.inl (by omega))
  unfold Text.ofChar
  simp only [hchar]
  rw [if_neg (by omega), if_pos (by omega), toUInt8_eq (b := b) (by omega),
    toUInt8_eq (b := c) (by omega)]

theorem ofChar_three {c d : UInt8} (hb : 0xE0 ≤ b.toNat) (hb' : b.toNat < 0xF0)
    (hc : 0x80 ≤ c.toNat) (hc' : c.toNat ≤ 0xBF) (hd : 0x80 ≤ d.toNat) (hd' : d.toNat ≤ 0xBF)
    (hlow : b.toNat = 0xE0 → 0xA0 ≤ c.toNat) (hhigh : b.toNat = 0xED → c.toNat ≤ 0x9F)
    (hn : n = ((b.toNat - 0xE0) * 0x40 + (c.toNat - 0x80)) * 0x40 + (d.toNat - 0x80)) :
    Text.ofChar (Char.ofNat n) = [b, c, d] := by
  have hvalid : n.isValidChar := by
    unfold Nat.isValidChar
    omega
  unfold Text.ofChar
  simp only [toNat_ofNat hvalid]
  rw [if_neg (by omega), if_neg (by omega), if_pos (by omega), toUInt8_eq (b := b) (by omega),
    toUInt8_eq (b := c) (by omega), toUInt8_eq (b := d) (by omega)]

theorem ofChar_four {c d e : UInt8} (hb : 0xF0 ≤ b.toNat) (hb' : b.toNat < 0xF5)
    (hc : 0x80 ≤ c.toNat) (hc' : c.toNat ≤ 0xBF) (hd : 0x80 ≤ d.toNat) (hd' : d.toNat ≤ 0xBF)
    (he : 0x80 ≤ e.toNat) (he' : e.toNat ≤ 0xBF)
    (hlow : b.toNat = 0xF0 → 0x90 ≤ c.toNat) (hhigh : b.toNat = 0xF4 → c.toNat ≤ 0x8F)
    (hn : n = (((b.toNat - 0xF0) * 0x40 + (c.toNat - 0x80)) * 0x40 + (d.toNat - 0x80)) * 0x40
      + (e.toNat - 0x80)) :
    Text.ofChar (Char.ofNat n) = [b, c, d, e] := by
  have hvalid : n.isValidChar := by
    unfold Nat.isValidChar
    omega
  unfold Text.ofChar
  simp only [toNat_ofNat hvalid]
  rw [if_neg (by omega), if_neg (by omega), if_neg (by omega), toUInt8_eq (b := b) (by omega),
    toUInt8_eq (b := c) (by omega), toUInt8_eq (b := d) (by omega), toUInt8_eq (b := e) (by omega)]

/-- The character that a leading octet announces is written with the octets it was gathered from. -/
theorem ofChar_gather {l : Lead} (hl : lead? b = some l)
    (h : gather? l.extra l.lo l.hi l.bits t = some (n, rest)) :
    Text.ofChar (Char.ofNat n) ++ rest = b :: t := by
  have hbyte := b.toNat_lt
  unfold lead? at hl
  simp only [UInt8.lt_iff_toNat_lt, beq_iff_eq, ← UInt8.toNat_inj] at hl
  split at hl
  · rename_i hb
    cases hl
    obtain ⟨hn, rfl⟩ := gather?_zero h
    rw [hn, ofChar_one hb]
    rfl
  split at hl
  · cases hl
  split at hl
  · rename_i hb hb'
    cases hl
    obtain ⟨c, t, rfl, hc, hc', h⟩ := gather?_succ h
    obtain ⟨hn, rfl⟩ := gather?_zero h
    rw [ofChar_two (Nat.le_of_not_lt hb) hb' hc hc' hn]
    rfl
  split at hl
  · rename_i hb hb'
    cases hl
    obtain ⟨c, t, rfl, hc, hc', h⟩ := gather?_succ h
    obtain ⟨d, t, rfl, hd, hd', h⟩ := gather?_succ h
    obtain ⟨hn, rfl⟩ := gather?_zero h
    have hlow : b.toNat = 0xE0 → 0xA0 ≤ c.toNat := fun hb₀ => by simpa [hb₀] using hc
    have hhigh : b.toNat = 0xED → c.toNat ≤ 0x9F := fun hb₀ => by simpa [hb₀] using hc'
    have hc : 0x80 ≤ c.toNat := Nat.le_trans (by simp only; split <;> decide) hc
    have hc' : c.toNat ≤ 0xBF := Nat.le_trans hc' (by simp only; split <;> decide)
    rw [ofChar_three (Nat.le_of_not_lt hb) hb' hc hc' hd hd' hlow hhigh hn]
    rfl
  split at hl
  · rename_i hb hb'
    cases hl
    obtain ⟨c, t, rfl, hc, hc', h⟩ := gather?_succ h
    obtain ⟨d, t, rfl, hd, hd', h⟩ := gather?_succ h
    obtain ⟨e, t, rfl, he, he', h⟩ := gather?_succ h
    obtain ⟨hn, rfl⟩ := gather?_zero h
    have hlow : b.toNat = 0xF0 → 0x90 ≤ c.toNat := fun hb₀ => by simpa [hb₀] using hc
    have hhigh : b.toNat = 0xF4 → c.toNat ≤ 0x8F := fun hb₀ => by simpa [hb₀] using hc'
    have hc : 0x80 ≤ c.toNat := Nat.le_trans (by simp only; split <;> decide) hc
    have hc' : c.toNat ≤ 0xBF := Nat.le_trans hc' (by simp only; split <;> decide)
    rw [ofChar_four (Nat.le_of_not_lt hb) hb' hc hc' hd hd' he he' hlow hhigh hn]
    rfl
  · cases hl

/-- **The first glyph of a text and what follows it make up the text.** -/
theorem text_next (b : UInt8) (t : Text) : (next b t).1.text ++ (next b t).2 = b :: t := by
  unfold next
  cases hl : lead? b with
  | none => rfl
  | some l =>
    cases hg : gather? l.extra l.lo l.hi l.bits t with
    | none =>
      simp only [hg]
      rfl
    | some p =>
      simp only [hg]
      exact ofChar_gather hl hg

theorem next_ascii (hb : b.toNat < 0x80) (t : Text) :
    next b t = (char (Char.ofNat b.toNat), t) := by
  have hlead : lead? b = some ⟨0, 0x80, 0xBF, b.toNat⟩ := by
    unfold lead?
    rw [if_pos (UInt8.lt_iff_toNat_lt.mpr hb)]
  unfold next
  rw [hlead]
  rfl

/-! ## All glyphs -/

/-- What holds of the empty text, and of a text if it holds of what follows its first glyph, holds
of every text. -/
theorem reading_induction {P : Text → Prop} (nil : P [])
    (cons : ∀ b t, P (next b t).2 → P (b :: t)) : ∀ t, P t
  | [] => nil
  | b :: t => cons b t (reading_induction nil cons (next b t).2)
termination_by t => t.length
decreasing_by exact Nat.lt_succ_of_le (length_next b t)

theorem readOnto_eq (acc : List Glyph) (t : Text) : readOnto acc t = acc.reverse ++ read t := by
  unfold read
  induction t using reading_induction generalizing acc with
  | nil => simp [readOnto]
  | cons b t ih =>
    rw [readOnto, readOnto, ih, ih [(next b t).1]]
    simp

@[simp] theorem read_nil : read [] = [] := by
  unfold read
  rw [readOnto]
  rfl

theorem read_cons (b : UInt8) (t : Text) : read (b :: t) = (next b t).1 :: read (next b t).2 := by
  conv => lhs; unfold read
  rw [readOnto, readOnto_eq]
  rfl

theorem read_ascii (hb : b.toNat < 0x80) (t : Text) :
    read (b :: t) = char (Char.ofNat b.toNat) :: read t := by
  rw [read_cons, next_ascii hb]

theorem length_text_pos (g : Glyph) : 0 < g.text.length := by
  cases g with
  | stray b => exact Nat.one_pos
  | char c =>
    have hchar : 0 < (Text.ofChar c).length := by
      simp only [Text.ofChar]
      split
      · exact Nat.succ_pos _
      split
      · exact Nat.succ_pos _
      split <;> exact Nat.succ_pos _
    exact hchar

end Glyph

namespace Text

/-- **The octets of all glyphs make up the text.** -/
theorem ofGlyphs_read (t : Text) : ofGlyphs (Glyph.read t) = t := by
  unfold ofGlyphs
  induction t using Glyph.reading_induction with
  | nil => simp
  | cons b t ih => rw [Glyph.read_cons, List.flatMap_cons, ih, Glyph.text_next]

/-- A text of ASCII octets is well-formed. -/
theorem isUtf8_of_ascii {t : Text} (h : t.all (·.toNat < 0x80) = true) : isUtf8 t = true := by
  unfold isUtf8
  induction t with
  | nil => rw [Glyph.read_nil]; rfl
  | cons b t ih =>
    rw [List.all_cons, Bool.and_eq_true, decide_eq_true_eq] at h
    rw [Glyph.read_ascii h.1, List.all_cons, ih h.2]
    rfl

/-- The octets of a glyph where stray ones are replaced. -/
def cleaned : Glyph → Text
  | .char c => ofChar c
  | .stray _ => replacement

theorem sanitize_eq_cleaned (t : Text) : sanitize t = (Glyph.read t).flatMap cleaned := by
  unfold sanitize
  congr 1

/-- **A well-formed text has nothing to be replaced.** -/
theorem sanitize_eq {t : Text} (h : isUtf8 t = true) : sanitize t = t := by
  have hchars : ∀ g ∈ Glyph.read t, cleaned g = g.text := by
    intro g hg
    cases g with
    | char c => rfl
    | stray b => cases List.all_eq_true.mp h _ hg
  calc sanitize t = ((Glyph.read t).map cleaned).flatten := sanitize_eq_cleaned t
    _ = ((Glyph.read t).map Glyph.text).flatten := by rw [List.map_congr_left hchars]
    _ = t := ofGlyphs_read t

end Text

end DetectorStream
