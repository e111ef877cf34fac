import DetectorStream.Csv

/-!
# Lines

The lines of a text stand between its line feeds. A carriage return at the end of a line belongs to
what ends the line. A reader is given each line with a line feed behind it, except for the last one,
and no last line if that is empty.

* `Csv.chop`: a line without the carriage return at its end.
* `Csv.written`: the lines of a text.
* `Csv.fed`: lines as a reader is given them.
* **`Csv.linesOf_eq`**: a reader is given the lines of the text.
-/

namespace DetectorStream.Csv

variable {x t : Text} {ls : List Text}

/-! ## Lines of a text -/

/-- A line without the carriage return at its end. -/
def chop (x : Text) : Text := if x.getLast? = some 0x0D then x.dropLast else x

/-- **The lines of a text**, without what ends them. The last one may be empty. -/
def written (text : Text) : List Text := (Text.split 0x0A text).map chop

theorem written_singleton (h : 0x0A ∉ t) : written t = [chop t] := by
  rw [written, Text.split, List.splitOn_eq_singleton h]
  rfl

theorem written_append (h : 0x0A ∉ x) (t : Text) :
    written (x ++ 0x0A :: t) = chop x :: written t := by
  rw [written, Text.split, List.splitOn_append_cons_self_of_not_mem h]
  rfl

theorem written_ne_nil (t : Text) : written t ≠ [] := by
  intro h
  exact List.splitOn_ne_nil _ _ (List.map_eq_nil_iff.mp h)

/-- What holds of a text without a line feed, and of a line and a text if it holds of the text, holds
of every text. -/
theorem lines_induction {P : Text → Prop} (last : ∀ t, 0x0A ∉ t → P t)
    (line : ∀ x t, 0x0A ∉ x → P t → P (x ++ 0x0A :: t)) (t : Text) : P t :=
  if h : 0x0A ∈ t then by
    obtain ⟨x, rest, hsplit, hx⟩ := List.eq_append_cons_of_mem h
    rw [hsplit]
    exact line x rest hx (lines_induction last line rest)
  else last t h
termination_by t.length
decreasing_by
  rw [hsplit, List.length_append, List.length_cons]
  omega

theorem mem_of_mem_chop {b : UInt8} (h : b ∈ chop x) : b ∈ x := by
  unfold chop at h
  split at h
  · exact (List.dropLast_prefix x).subset h
  · exact h

theorem length_chop_le (x : Text) : (chop x).length ≤ x.length := by
  unfold chop
  split
  · rw [List.length_dropLast]
    omega
  · exact Nat.le_refl _

/-- A line that does not end with a carriage return loses nothing. -/
theorem chop_eq (h : 0x0D ∉ x) : chop x = x := if_neg fun hend => h (List.mem_of_getLast? hend)

/-- No line has a line feed. -/
theorem not_mem_of_written (t : Text) : ∀ x ∈ written t, 0x0A ∉ x := by
  induction t using lines_induction with
  | last t ht =>
    rw [written_singleton ht]
    rintro x hx hmem
    rw [List.mem_singleton.mp hx] at hmem
    exact ht (mem_of_mem_chop hmem)
  | line y t hy ih =>
    rw [written_append hy]
    intro x hx hmem
    rcases List.mem_cons.mp hx with rfl | hx
    · exact hy (mem_of_mem_chop hmem)
    · exact ih x hx hmem

/-- How many octets lines take, with what ends them. -/
def octets : List Text → Nat
  | [] => 0
  | x :: ls => x.length + 1 + octets ls

theorem octets_cons (x : Text) (ls : List Text) : octets (x :: ls) = x.length + 1 + octets ls := rfl

theorem octets_suffix {rest : List Text} (h : rest <:+ ls) : octets rest ≤ octets ls := by
  obtain ⟨front, rfl⟩ := h
  induction front with
  | nil => exact Nat.le_refl _
  | cons x front ih => exact Nat.le_trans ih (Nat.le_add_left _ _)

theorem octets_written_le (t : Text) : octets (written t) ≤ t.length + 1 := by
  induction t using lines_induction with
  | last t ht =>
    have hchop := length_chop_le t
    rw [written_singleton ht, octets_cons]
    exact Nat.succ_le_succ hchop
  | line x t hx ih =>
    have hchop := length_chop_le x
    rw [written_append hx, octets_cons, List.length_append, List.length_cons]
    omega

/-! ## Lines for a reader -/

/-- What ends a line when these lines follow. -/
def feed (ls : List Text) : Text := if ls.isEmpty then [] else [0x0A]

/-- **Lines as a reader is given them.** -/
def fed : List Text → List Text
  | [] => []
  | x :: ls => if x.isEmpty && ls.isEmpty then [] else (x ++ feed ls) :: fed ls

theorem feed_cases (ls : List Text) : feed ls = [] ∨ feed ls = [0x0A] := by
  unfold feed
  split
  · exact .inl rfl
  · exact .inr rfl

/-- What ends a line does not belong to it. -/
theorem trimRight_feed (h : 0x0A ∉ x) {ending : Text} (hending : ending = [] ∨ ending = [0x0A]) :
    Text.trimRight (· == 0x0A) (x ++ ending) = x := by
  have hback : x.reverse.dropWhile (· == 0x0A) = x.reverse := by
    cases hrev : x.reverse with
    | nil => rfl
    | cons b t =>
      have hb : b ∈ x := by
        rw [← List.mem_reverse, hrev]
        exact List.mem_cons_self
      refine List.dropWhile_cons_of_neg ?_
      rw [beq_iff_eq]
      rintro rfl
      exact h hb
  unfold Text.trimRight
  rcases hending with rfl | rfl
  · rw [List.append_nil, hback, List.reverse_reverse]
  · rw [List.reverse_append, List.reverse_singleton, List.singleton_append, List.dropWhile_cons,
      if_pos (beq_self_eq_true _), hback, List.reverse_reverse]

theorem fed_of_ne (h : ¬ (x = [] ∧ ls = [])) : fed (x :: ls) = (x ++ feed ls) :: fed ls := by
  refine if_neg fun hempty => h ?_
  rwa [Bool.and_eq_true, List.isEmpty_iff, List.isEmpty_iff] at hempty

/-- Lines that are followed by others are given with a line feed. -/
theorem fed_cons (hls : ls ≠ []) : fed (x :: ls) = (x ++ [0x0A]) :: fed ls := by
  rw [fed_of_ne fun h => hls h.2, feed, if_neg (mt List.isEmpty_iff.mp hls)]

theorem length_fed_suffix {rest : List Text} (h : rest <:+ ls) :
    (fed rest).length ≤ (fed ls).length := by
  obtain ⟨front, rfl⟩ := h
  induction front with
  | nil => exact Nat.le_refl _
  | cons x front ih =>
    by_cases hempty : x = [] ∧ front ++ rest = []
    · rw [(List.append_eq_nil_iff.mp hempty.2).2]
      exact Nat.zero_le _
    · rw [List.cons_append, fed_of_ne hempty]
      exact Nat.le_succ_of_le ih

theorem linesOnto_inside (h : 0x0A ∉ x) (acc : List Bytes) (front t : Text) :
    linesOnto acc front (x ++ t) = linesOnto acc (x.reverse ++ front) t := by
  induction x generalizing front with
  | nil => rfl
  | cons b x ih =>
    rw [List.mem_cons, not_or] at h
    rw [List.cons_append, linesOnto.eq_3 acc front b _ (fun hb => h.1 hb.symm), ih h.2]
    simp

/-- A line feed ends a line. -/
theorem linesOnto_feed (h : 0x0A ∉ x) (acc : List Bytes) (t : Text) :
    linesOnto acc [] (x ++ 0x0A :: t) = linesOnto ((chop x ++ [0x0A]) :: acc) [] t := by
  rw [linesOnto_inside h, List.append_nil, linesOnto, List.head?_reverse, chop]
  simp only [beq_iff_eq]
  split <;> simp

/-- The text without a carriage return at its end has the same lines. -/
theorem chop_append (x t : Text) : chop (x ++ 0x0A :: t) = x ++ 0x0A :: chop t := by
  have hlast : (x ++ 0x0A :: t).getLast? = some 0x0D ↔ t.getLast? = some 0x0D := by
    cases t with
    | nil => simp
    | cons b t => simp
  unfold chop
  by_cases h : t.getLast? = some 0x0D
  · have hne : t ≠ [] := by
      rintro rfl
      cases h
    rw [if_pos h, if_pos (hlast.mpr h), List.dropLast_append_cons, List.dropLast_cons_of_ne_nil hne]
  · rw [if_neg h, if_neg (mt hlast.mp h)]

theorem linesOnto_chop (acc : List Bytes) (t : Text) :
    linesOnto acc [] (chop t) = acc.reverse ++ fed (written t) := by
  induction t using lines_induction generalizing acc with
  | last t ht =>
    have hchop : 0x0A ∉ chop t := mt mem_of_mem_chop ht
    have hend := linesOnto_inside hchop acc [] []
    rw [List.append_nil, List.append_nil] at hend
    rw [hend, linesOnto, written_singleton ht]
    cases chop t <;> simp [fed, feed]
  | line x t hx ih =>
    rw [chop_append, linesOnto_feed hx, ih, written_append hx, fed_cons (written_ne_nil t)]
    simp

/-- **A reader is given the lines of the text.** -/
theorem linesOf_eq (t : Text) : linesOf t = fed (written t) := by
  have hchop : linesOf t = linesOnto [] [] (chop t) := by
    simp only [linesOf, chop, beq_iff_eq]
  rw [hchop, linesOnto_chop]
  rfl

end DetectorStream.Csv
