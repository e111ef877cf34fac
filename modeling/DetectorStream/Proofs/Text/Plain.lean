import DetectorStream.Proofs.Number.Numerals
import DetectorStream.Proofs.Text.Glyphs

/-!
# Plain text

Letters, digits, minus signs and underscores are the octets of names and numbers. None of them is
white space, a separator or a quote, and none has to be escaped.

* `Text.isPlain`: the octets of plain text.
* `Text.isPlain_ofInt`: a written number is plain text.
* **`Text.trimSpace_plain`**: there is no white space around plain text.
-/

namespace DetectorStream.Text

variable {b c : UInt8} {t : Text}

/-- The octets of names and numbers. -/
def isPlain (b : UInt8) : Bool := isAlnum b || b == 0x2D || b == 0x5F

theorem isPlain_iff : isPlain b = true ↔
    (0x41 ≤ b.toNat ∧ b.toNat ≤ 0x5A) ∨ (0x61 ≤ b.toNat ∧ b.toNat ≤ 0x7A) ∨
      (0x30 ≤ b.toNat ∧ b.toNat ≤ 0x39) ∨ b.toNat = 0x2D ∨ b.toNat = 0x5F := by
  simp only [isPlain, isAlnum, isAlpha, isUpper, isLower, isDigit, Glyph.within_iff,
    Bool.or_eq_true, beq_iff_eq, ← UInt8.toNat_inj, UInt8.reduceToNat]
  omega

theorem ne_of_isPlain (hb : isPlain b = true) (hc : isPlain c = false) : b ≠ c := by
  rintro rfl
  rw [hb] at hc
  cases hc

theorem not_mem_of_isPlain (h : t.all isPlain = true) (hc : isPlain c = false) : c ∉ t :=
  fun hmem => ne_of_isPlain (List.all_eq_true.mp h c hmem) hc rfl

/-- A written number is plain text. -/
theorem isPlain_ofInt (i : Int) : (Decimal.ofInt i).all isPlain = true := by
  refine List.all_eq_true.mpr fun b hb => ?_
  have hnumeral := Decimal.isNumeral_of_mem_ofInt i b hb
  unfold Decimal.isNumeral at hnumeral
  unfold isPlain isAlnum
  rcases Bool.or_eq_true_iff.mp hnumeral with hdigit | hminus
  · simp [hdigit]
  · simp [hminus]

/-! ## White space -/

theorem isSpaceGlyph_plain (h : isPlain b = true) :
    isSpaceGlyph (.char (Char.ofNat b.toNat)) = false := by
  have hb := isPlain_iff.mp h
  have hchar : (Char.ofNat b.toNat).toNat = b.toNat := Glyph.toNat_ofNat (Or.inl (by omega))
  unfold isSpaceGlyph isSpace
  simp only [hchar, Bool.or_eq_false_iff, Bool.and_eq_false_iff, decide_eq_false_iff_not,
    beq_eq_false_iff_ne]
  omega

theorem read_plain (h : isPlain b = true) (t : Text) :
    Glyph.read (b :: t) = .char (Char.ofNat b.toNat) :: Glyph.read t := by
  have hb := isPlain_iff.mp h
  exact Glyph.read_ascii (by omega) t

/-- There is no white space before plain text. -/
theorem trimLeftSpace_plain (h : isPlain b = true) (t : Text) :
    trimLeftSpace (b :: t) = b :: t := by
  unfold trimLeftSpace
  rw [read_plain h, List.dropWhile_cons, isSpaceGlyph_plain h]
  simp only [Bool.false_eq_true, if_false]
  rw [← read_plain h, ofGlyphs_read]

/-- No glyph of plain text is white space. -/
theorem not_space_of_mem (h : t.all isPlain = true) :
    ∀ g ∈ Glyph.read t, isSpaceGlyph g = false := by
  induction t with
  | nil => simp
  | cons b t ih =>
    rw [List.all_cons, Bool.and_eq_true] at h
    rw [read_plain h.1]
    intro g hg
    rcases List.mem_cons.mp hg with rfl | hg
    · exact isSpaceGlyph_plain h.1
    · exact ih h.2 g hg

theorem dropWhile_of_forall {α : Type} {p : α → Bool} {l : List α} (h : ∀ x ∈ l, p x = false) :
    l.dropWhile p = l := by
  cases l with
  | nil => rfl
  | cons x l => rw [List.dropWhile_cons, h x List.mem_cons_self, if_neg Bool.false_ne_true]

/-- **There is no white space around plain text.** -/
theorem trimSpace_plain (h : t.all isPlain = true) : trimSpace t = t := by
  have hspace := not_space_of_mem h
  unfold trimSpace
  rw [dropWhile_of_forall hspace, dropWhile_of_forall fun g hg => hspace g (List.mem_reverse.mp hg),
    List.reverse_reverse, ofGlyphs_read]

end DetectorStream.Text
