import DetectorStream.Proofs.Text.Glyphs

/-!
# Trimming

An ASCII octet belongs to no longer encoding, so that what stands before it is read as if nothing
followed. A line is therefore trimmed in the same way with its line feed and without it.

* **`Glyph.read_append_ascii`**: a text before an ASCII octet.
* `Text.trimLeftSpace_suffix`: trimming takes octets off the front.
* `Text.trimLeftSpace_append_feed`: trimming a line with its line feed, which is white space if nothing
  else is left.
-/

namespace DetectorStream

namespace Glyph

variable {b : UInt8} {k bits n : Nat} {lo hi : UInt8} {s t rest : Text}

/-! ## Before an ASCII octet -/

/-- Every octet that continues an encoding lies above the ASCII octets. -/
theorem le_lo {l : Lead} (h : lead? b = some l) : 0x80 ≤ l.lo.toNat := by
  unfold lead? at h
  split at h
  · cases h
    exact Nat.le_refl 0x80
  split at h
  · cases h
  split at h
  · cases h
    exact Nat.le_refl 0x80
  split at h
  · cases h
    simp only
    split <;> decide
  split at h
  · cases h
    simp only
    split <;> decide
  · cases h

theorem gather?_append (h : gather? k lo hi bits t = some (n, rest)) (s : Text) :
    gather? k lo hi bits (t ++ s) = some (n, rest ++ s) := by
  induction k generalizing lo hi bits t with
  | zero =>
    obtain ⟨rfl, rfl⟩ := gather?_zero h
    rfl
  | succ k ih =>
    obtain ⟨c, t, rfl, hlo, hhi, hmore⟩ := gather?_succ h
    rw [List.cons_append, gather?, if_pos (within_iff.mpr ⟨hlo, hhi⟩), ih hmore]

/-- An encoding that is cut short is not completed by an ASCII octet. -/
theorem gather?_none (h : gather? k lo hi bits t = none) (hlo : 0x80 ≤ lo.toNat)
    (hb : b.toNat < 0x80) (s : Text) : gather? k lo hi bits (t ++ b :: s) = none := by
  induction k generalizing lo hi bits t with
  | zero => cases h
  | succ k ih =>
    cases t with
    | nil =>
      rw [List.nil_append, gather?, if_neg]
      intro hwithin
      have hge := (within_iff.mp hwithin).1
      omega
    | cons c t =>
      rw [gather?] at h
      rw [List.cons_append, gather?]
      split
      · rename_i hc
        rw [if_pos hc] at h
        exact ih h (by decide)
      · rfl

theorem next_append_ascii (c : UInt8) (t : Text) (hb : b.toNat < 0x80) (s : Text) :
    next c (t ++ b :: s) = ((next c t).1, (next c t).2 ++ b :: s) := by
  unfold next
  cases hl : lead? c with
  | none => rfl
  | some l =>
    cases hg : gather? l.extra l.lo l.hi l.bits t with
    | none =>
      simp only [hg, gather?_none hg (le_lo hl) hb]
    | some p =>
      simp only [hg, gather?_append hg]

/-- **What stands before an ASCII octet is read as if nothing followed.** -/
theorem read_append_ascii (t : Text) (hb : b.toNat < 0x80) (s : Text) :
    read (t ++ b :: s) = read t ++ read (b :: s) := by
  induction t using reading_induction with
  | nil => rw [List.nil_append, read_nil, List.nil_append]
  | cons c t ih =>
    rw [List.cons_append, read_cons, next_append_ascii c t hb, ih, read_cons c t, List.cons_append]

end Glyph

/-! ## White space -/

namespace Text

variable {t : Text}

theorem ofGlyphs_append (gs hs : List Glyph) : ofGlyphs (gs ++ hs) = ofGlyphs gs ++ ofGlyphs hs :=
  List.flatMap_append

theorem ofGlyphs_eq_nil {gs : List Glyph} : ofGlyphs gs = [] ↔ gs = [] := by
  cases gs with
  | nil => exact iff_of_true rfl rfl
  | cons g gs =>
    refine iff_of_false (fun h => ?_) (List.cons_ne_nil g gs)
    have hlength := g.length_text_pos
    rw [ofGlyphs, List.flatMap_cons, List.append_eq_nil_iff] at h
    rw [h.1] at hlength
    cases hlength

/-- Trimming takes octets off the front. -/
theorem trimLeftSpace_suffix (t : Text) : trimLeftSpace t <:+ t := by
  have hsuffix : (Glyph.read t).dropWhile isSpaceGlyph <:+ Glyph.read t := List.dropWhile_suffix _
  obtain ⟨front, hfront⟩ := hsuffix
  refine ⟨ofGlyphs front, ?_⟩
  rw [trimLeftSpace, ← ofGlyphs_append, hfront, ofGlyphs_read]

theorem trimLeftSpace_append_feed (t : Text) :
    trimLeftSpace (t ++ [0x0A]) =
      if (trimLeftSpace t).isEmpty then [] else trimLeftSpace t ++ [0x0A] := by
  have hread : Glyph.read (t ++ [0x0A]) = Glyph.read t ++ [.char '\n'] := by
    have hfeed : Glyph.read [0x0A] = [.char '\n'] := by
      rw [Glyph.read_ascii (by decide), Glyph.read_nil]
      rfl
    rw [Glyph.read_append_ascii t (by decide), hfeed]
  have hspace : [Glyph.char '\n'].dropWhile isSpaceGlyph = [] := by decide
  unfold trimLeftSpace
  rw [hread, List.dropWhile_append, hspace]
  by_cases hblank : (Glyph.read t).dropWhile isSpaceGlyph = []
  · rw [hblank]
    rfl
  · have htext := mt ofGlyphs_eq_nil.mp hblank
    rw [← List.isEmpty_iff] at hblank htext
    rw [if_neg hblank, if_neg htext, ofGlyphs_append]
    rfl

end Text

end DetectorStream
