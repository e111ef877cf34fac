import DetectorStream.ByteSize
import Mathlib.Tactic.Linarith

/-!
# Texts of byte counts

The search for the divisor multiplies a word by 1024 for as long as 1024 fits into what is left of
the count, so the divisor never exceeds the count and stays a word, and its letter is one of the
six. A negative count is negated first. The least word is its own negation, so its text is asked for
without end; every other count has a text.

* `Scaling.Exact`: the search is in exact numbers.
* `Scaling.Passes`, `Scaling.Exact.passes`: the states of a search, all of which are exact.
* `Scaling.passes_settle`: where the search ends.
* `Shown`: the texts of counts that are not negative, in exact numbers.
* `tell_eq_text`, `told_iff`: two calls are enough for all counts that have a text, and which do.
* **`text_told`**: what the text of any count is, if it has one.
-/

namespace DetectorStream.ByteSize

variable {m : Int} {n : Int64}

/-! ## The search for the divisor -/

namespace Scaling

variable {s t u : Scaling}

/-- **A search is in exact numbers**: the divisor is a power of 1024 that fits into the count `m`,
and what is left is the whole quotient. -/
structure Exact (m : Int) (s : Scaling) : Prop where
  divisor : s.divisor.toInt = 1024 ^ (s.place + 1)
  fits : 1024 ^ (s.place + 1) ≤ m
  left : s.left.toInt = m / 1024 ^ (s.place + 1)

theorem power_pos (k : Nat) : (0 : Int) < 1024 ^ k := Int.pow_pos (by decide)

theorem exact_start (h : 1024 ≤ n) : Exact n.toInt (start n) := by
  have hpower : (1024 : Int) ^ ((start n).place + 1) = 1024 := pow_one 1024
  have hle : 1024 ≤ n.toInt := Int64.le_iff_toInt_le.mp h
  constructor
  · rw [hpower]
    rfl
  · rw [hpower]
    exact hle
  · rw [hpower]
    exact toInt_div_1024 (Int.le_trans (by decide) hle)

/-- There is a letter for every divisor that fits into a word. -/
theorem Exact.place_lt (h : Exact m s) (hm : m < 2 ^ 63) : s.place < letters.length := by
  refine Nat.lt_of_not_le fun hle => ?_
  have hlarge : (1024 : Int) ^ (letters.length + 1) ≤ 1024 ^ (s.place + 1) :=
    pow_le_pow_right₀ (by decide) (Nat.succ_le_succ hle)
  have hbeyond : (2 : Int) ^ 63 < 1024 ^ (letters.length + 1) := by decide
  exact absurd (hlarge.trans h.fits) (not_le.mpr (hm.trans hbeyond))

/-- While 1024 fits into what is left, the next divisor fits into the count, and so into a word. -/
theorem Exact.next (h : Exact m s) (hm : m < 2 ^ 63) (hmore : 1024 ≤ s.left) :
    Exact m s.next := by
  have hleft := Int64.le_iff_toInt_le.mp hmore
  rw [h.left, Int.le_ediv_iff_mul_le (power_pos _)] at hleft
  have hfits : (1024 : Int) ^ (s.next.place + 1) ≤ m := by
    calc (1024 : Int) ^ (s.next.place + 1) = 1024 * 1024 ^ (s.place + 1) := pow_succ' _ _
      _ ≤ m := hleft
  refine ⟨?_, hfits, ?_⟩
  · have hpos := power_pos (s.next.place + 1)
    have hproduct : s.divisor.toInt * (1024 : Int64).toInt = 1024 ^ (s.next.place + 1) := by
      rw [h.divisor]
      exact (pow_succ _ _).symm
    calc s.next.divisor.toInt = (s.divisor.toInt * (1024 : Int64).toInt).bmod (2 ^ 64) :=
          Int64.toInt_mul _ _
      _ = ((1024 : Int) ^ (s.next.place + 1)).bmod (2 ^ 64) := by rw [hproduct]
      _ = 1024 ^ (s.next.place + 1) := Int.bmod_eq_of_le (by omega) (by omega)
  · rw [toInt_next_left hmore, h.left, Int.ediv_ediv_of_nonneg (power_pos _).le]
    exact congrArg (m / ·) (pow_succ _ _).symm

/-- **The states of a search**, from the one that it begins in up to the one that it ends in. -/
inductive Passes (s : Scaling) : Scaling → Prop
  | here : Passes s s
  | on {t : Scaling} : Passes s t → 1024 ≤ t.left → Passes s t.next

theorem Passes.trans (hst : Passes s t) (htu : Passes t u) : Passes s u := by
  induction htu with
  | here => exact hst
  | on _ hmore ih => exact .on ih hmore

/-- The state in which a search ends is one of its states, and 1024 does not fit any more. -/
theorem passes_settle (s : Scaling) : Passes s s.settle ∧ s.settle.left < 1024 := by
  fun_induction settle s with
  | case1 s hmore ih => exact ⟨.trans (.on .here hmore) ih.1, ih.2⟩
  | case2 s hless => exact ⟨.here, Int64.not_le.mp hless⟩

/-- The search for the greatest count takes five steps. -/
example : (start Int64.maxValue).settle = ⟨7, 0x1000000000000000, 5⟩ := by cbv

/-- **No state of a search is wrapped.** -/
theorem Exact.passes (h : Exact m s) (hm : m < 2 ^ 63) (hst : Passes s t) : Exact m t := by
  induction hst with
  | here => exact h
  | on _ hmore ih => exact ih.next hm hmore

/-- A divisor that fits leaves a quotient. -/
theorem Exact.one_le (h : Exact m s) : 1 ≤ m / 1024 ^ (s.place + 1) := by
  rw [Int.le_ediv_iff_mul_le (power_pos _), Int.one_mul]
  exact h.fits

end Scaling

/-! ## Texts -/

/-- **The texts of a count `m` that is not negative**, in exact numbers: the number itself below
1024, and else the quotient by the power of 1024 for which the whole quotient is below 1024, with
the letter of that power. -/
inductive Shown (m : Int) : Text → Prop
  | whole : m < 1024 → Shown m (Decimal.ofInt m ++ " B")
  | scaled (place : Nat) (letter : UInt8) : letters[place]? = some letter →
      1 ≤ m / 1024 ^ (place + 1) → m / 1024 ^ (place + 1) < 1024 →
      Shown m (Fixed.render 1 (Binary64.ofInt m / Binary64.ofInt (1024 ^ (place + 1)))
        ++ [0x20, letter, 0x42])

/-- A count that is not negative is shown, without a crash. -/
theorem magnitude_shown (n : Int64) : ∃ t, magnitude n = .ok t ∧ Shown n.toInt t := by
  unfold magnitude
  split
  · rename_i hless
    exact ⟨_, rfl, .whole (Int64.lt_iff_toInt_lt.mp hless)⟩
  · rename_i hmore
    have hstart := Scaling.exact_start (Int64.not_lt.mp hmore)
    obtain ⟨hpasses, hleft⟩ := Scaling.passes_settle (Scaling.start n)
    have hexact := hstart.passes n.toInt_lt hpasses
    have hplace := hexact.place_lt n.toInt_lt
    have hquotient := Int64.lt_iff_toInt_lt.mp hleft
    rw [hexact.left] at hquotient
    have hletter := List.getElem?_eq_getElem hplace
    simp only [hletter, hexact.divisor]
    exact ⟨_, rfl, .scaled _ _ hletter hexact.one_le hquotient⟩

/-- Every word but the least has a negation. -/
theorem toInt_neg_of_ne (h : n ≠ Int64.minValue) : (-n).toInt = -n.toInt := by
  have hne : n.toInt ≠ -2 ^ 63 := fun heq => h (Int64.toInt_inj.mp heq)
  have hle := n.le_toInt
  have hlt := n.toInt_lt
  rw [Int64.toInt_neg]
  exact Int.bmod_eq_of_le (by omega) (by omega)

theorem tell_of_nonneg (h : ¬ n < 0) (calls : Nat) : tell (calls + 1) n = some (magnitude n) :=
  if_neg h

theorem tell_of_neg (h : n < 0) (calls : Nat) :
    tell (calls + 1) n = (tell calls (-n)).map (·.map (0x2D :: ·)) :=
  if_pos h

theorem neg_not_neg (h : n ≠ Int64.minValue) (hneg : n < 0) : ¬ -n < 0 := by
  rw [Int64.lt_iff_toInt_lt] at hneg ⊢
  rw [toInt_neg_of_ne h]
  have hzero : (0 : Int64).toInt = 0 := rfl
  omega

/-- Two calls are enough: the negation of a negative count is not negative. -/
theorem tell_enough (h : n ≠ Int64.minValue) (calls : Nat) : tell (calls + 2) n = text n := by
  unfold text
  by_cases hneg : n < 0
  · simp only [tell_of_neg hneg, tell_of_nonneg (neg_not_neg h hneg)]
  · rw [tell_of_nonneg hneg, tell_of_nonneg hneg]

/-- The least word is its own negation: no number of calls is enough. -/
theorem tell_least (calls : Nat) : tell calls Int64.minValue = none := by
  induction calls with
  | zero => rfl
  | succ calls ih =>
    have hself : -Int64.minValue = Int64.minValue := rfl
    rw [tell_of_neg (by decide), hself, ih]
    rfl

/-- **The bound on the calls hides nothing.** -/
theorem tell_eq_text (n : Int64) (calls : Nat) : tell (calls + 2) n = text n := by
  by_cases h : n = Int64.minValue
  · rw [h, tell_least]
    exact (tell_least 2).symm
  · exact tell_enough h calls

/-- **The counts that have a text**, or crash, are all but the least. -/
theorem told_iff (n : Int64) : (∃ calls, (tell calls n).isSome) ↔ n ≠ Int64.minValue := by
  constructor
  · rintro ⟨calls, htold⟩ rfl
    rw [tell_least] at htold
    cases htold
  · intro h
    by_cases hneg : n < 0
    · refine ⟨2, ?_⟩
      rw [tell_of_neg hneg, tell_of_nonneg (neg_not_neg h hneg)]
      rfl
    · refine ⟨1, ?_⟩
      rw [tell_of_nonneg hneg]
      rfl

/-- **What becomes of the count `n`.** -/
structure Told (n : Int64) : Prop where
  ends : (∃ calls, (tell calls n).isSome) ↔ n ≠ Int64.minValue
  settled : ∀ calls, 2 ≤ calls → tell calls n = text n
  shown : 0 ≤ n → ∃ t, text n = some (.ok t) ∧ Shown n.toInt t
  negated : n < 0 → n ≠ Int64.minValue →
    ∃ t, text (-n) = some (.ok t) ∧ text n = some (.ok (0x2D :: t)) ∧ Shown (-n.toInt) t
  search : 1024 ≤ n → ∀ s, Scaling.Passes (Scaling.start n) s →
    s.Exact n.toInt ∧ s.place < letters.length

/-- **Every count but the least is told**, with a divisor in exact numbers. -/
theorem text_told (n : Int64) : Told n where
  ends := told_iff n
  settled calls hcalls := by
    obtain ⟨more, rfl⟩ := Nat.exists_eq_add_of_le' hcalls
    exact tell_eq_text n more
  shown hnonneg := by
    obtain ⟨t, ht, hshown⟩ := magnitude_shown n
    refine ⟨t, ?_, hshown⟩
    rw [text, tell_of_nonneg (Int64.not_lt.mpr hnonneg), ht]
  negated hneg hne := by
    obtain ⟨t, ht, hshown⟩ := magnitude_shown (-n)
    have hnegated : ∀ calls, tell (calls + 1) (-n) = some (.ok t) := fun calls => by
      rw [tell_of_nonneg (neg_not_neg hne hneg), ht]
    rw [toInt_neg_of_ne hne] at hshown
    refine ⟨t, hnegated 1, ?_, hshown⟩
    rw [text, tell_of_neg hneg, hnegated 0]
    rfl
  search hmore s hs := by
    have hexact := (Scaling.exact_start hmore).passes n.toInt_lt hs
    exact ⟨hexact, hexact.place_lt n.toInt_lt⟩

/-- **The least count is never told.** -/
theorem text_least_endless : ¬ ∃ calls, (tell calls Int64.minValue).isSome :=
  fun h => (told_iff Int64.minValue).mp h rfl

end DetectorStream.ByteSize
