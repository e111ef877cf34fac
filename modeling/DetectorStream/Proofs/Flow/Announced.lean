import DetectorStream.Proofs.Flow.Position
import Mathlib.Data.Rat.Floor

/-!
# The announced number of chunks

How many chunks a pass has is announced before it begins, by a formula in words of sixty-four bits.
A controller that is drained hands out as many chunks as the exact quotient, rounded up, says. The
announcement agrees with it as long as the sum in the formula is a word. Beyond that the sum is
negative, and so the announcement is never right.

* `Chunk.perPass_eq_ceil`: the number of chunks in a pass is the quotient, rounded up.
* `Controller.drained`: what a controller hands out until it has no more.
* **`Controller.At.drain`**: without a budget of time that is the plan from its position on.
* `chunkCount_of_lt`, `chunkCount_of_le`: what is announced, with a sum that is a word and with one
  that is not.
* **`Controller.chunkCount_eq_drained_iff`**: the announcement is right exactly if the sum is a
  word.
-/

namespace DetectorStream

open Chunk (perPass numbered ofPlan)

/-! ## The quotient, rounded up -/

theorem Chunk.perPass_mul_lt {total size : Nat} (hs : 0 < size) :
    perPass total size * size < total + size := by
  have h : perPass total size * size ≤ total + size - 1 := Nat.div_mul_le_self _ _
  omega

/-- **The number of chunks in a pass is the quotient, rounded up.** -/
theorem Chunk.perPass_eq_ceil {total size : Nat} (hs : 0 < size) :
    (perPass total size : ℤ) = ⌈(total : ℚ) / size⌉ := by
  have hpos : (0 : ℚ) < size := by exact_mod_cast hs
  have hbelow : (perPass total size : ℚ) * size < total + size := by
    exact_mod_cast Chunk.perPass_mul_lt hs
  have habove : (total : ℚ) ≤ perPass total size * size := by
    exact_mod_cast Chunk.le_perPass_mul hs
  refine (Int.ceil_eq_iff.mpr ⟨?_, ?_⟩).symm
  · rw [lt_div_iff₀ hpos, sub_mul, one_mul, sub_lt_iff_lt_add]
    exact_mod_cast hbelow
  · rw [div_le_iff₀ hpos]
    exact_mod_cast habove

/-! ## The announcement -/

/-- The sum in the formula, before it is divided. -/
theorem toInt_add_sub_one (t s : Int64) :
    (t + s - 1).toInt = (t.toInt + s.toInt - 1).bmod (2 ^ 64) := by
  rw [Int64.toInt_sub, Int64.toInt_add, Int.bmod_sub_bmod]
  rfl

variable {t s : Int64}

theorem chunkCount_eq (ht : 0 < t) (hs : 1 ≤ s) :
    (chunkCount t s).toInt = ((t.toInt + s.toInt - 1).bmod (2 ^ 64)).tdiv s.toInt := by
  have hs' : ¬ s ≤ 0 := by
    rw [Int64.le_iff_toInt_le] at hs ⊢
    exact fun h => absurd (hs.trans h) (by decide)
  have hne : s ≠ -1 := by
    rintro rfl
    exact absurd hs (by decide)
  unfold chunkCount
  rw [if_neg (by simp [Int64.not_le.mpr ht, hs']), Int64.toInt_div_of_ne_right _ _ hne,
    toInt_add_sub_one]

/-- With a sum that is a word, the announcement is the number of chunks in a pass. -/
theorem chunkCount_of_lt (ht : 0 ≤ t) (hs : 1 ≤ s) (h : t.toInt + s.toInt - 1 < 2 ^ 63) :
    (chunkCount t s).toInt = perPass t.toInt.toNat s.toInt.toNat := by
  rw [Int64.le_iff_toInt_le, Int64.toInt_zero] at ht
  have hs' : 1 ≤ s.toInt := Int64.le_iff_toInt_le.mp hs
  rcases Int.lt_or_eq_of_le ht with hpos | hzero
  · have hword : (t.toInt + s.toInt - 1).bmod (2 ^ 64) = t.toInt + s.toInt - 1 :=
      Int.bmod_eq_of_le (by omega) (by omega)
    have hsum : t.toInt + s.toInt - 1 = ((t.toInt.toNat + s.toInt.toNat - 1 : Nat) : Int) := by
      omega
    have hsize : s.toInt = (s.toInt.toNat : Int) := by omega
    rw [chunkCount_eq (Int64.lt_iff_toInt_lt.mpr hpos) hs, hword, hsum, hsize, Int.toNat_natCast]
    exact (Int.ofNat_tdiv _ _).symm
  · have ht0 : t = 0 := Int64.toInt.inj hzero.symm
    subst ht0
    rw [Int64.toInt_zero, Int.toNat_zero, Chunk.perPass_zero (by omega)]
    rfl

/-- With a sum that is no word, it is not positive. -/
theorem chunkCount_of_le (ht : 0 < t) (hs : 1 ≤ s) (h : 2 ^ 63 ≤ t.toInt + s.toInt - 1) :
    (chunkCount t s).toInt = (t.toInt + s.toInt - 1 - 2 ^ 64).tdiv s.toInt ∧
      (chunkCount t s).toInt ≤ 0 := by
  have hs' : 1 ≤ s.toInt := Int64.le_iff_toInt_le.mp hs
  have htlt := t.toInt_lt
  have hslt := s.toInt_lt
  have hwrapped : (t.toInt + s.toInt - 1).bmod (2 ^ 64) = t.toInt + s.toInt - 1 - 2 ^ 64 := by
    rw [Int.bmod_def]
    omega
  refine ⟨by rw [chunkCount_eq ht hs, hwrapped], ?_⟩
  have hquotient : 0 ≤ (-(t.toInt + s.toInt - 1 - 2 ^ 64)).tdiv s.toInt :=
    Int.tdiv_nonneg (by omega) (by omega)
  rw [Int.neg_tdiv] at hquotient
  rw [chunkCount_eq ht hs, hwrapped]
  omega

namespace Flow.Controller

/-! ## Draining -/

variable {c : Controller} {total size passes n m : Nat}

/-- **What a controller hands out until it has no more**, or `n` times at most. -/
def drained (c : Controller) (n : Nat) (clock : Clock) : List Chunk :=
  (c.drain n clock).2.2.filterMap fun x => x.2.chunk?

/-- **Without a budget of time the plan is handed out from the position on**, and then the
controller is done. -/
theorem At.drain (h : At total size passes c n) (hl : c.Live) (hb : ¬ 0 < c.budget)
    (hd : c.deadline = none) (clock : Clock) (hm : passes * perPass total size - n < m) :
    (c.drain m clock).1.state = .done ∧
      c.drained m clock =
        (List.range (passes * perPass total size - n)).map fun i =>
          numbered total size (n + i) := by
  induction m generalizing c n clock with
  | zero => exact absurd hm (Nat.not_lt_zero _)
  | succ m ih =>
    have hmove := c.next_move {} clock
    unfold drained Controller.drain
    rw [waits_live]
    generalize hnext : c.next {} clock = answer at hmove ⊢
    obtain ⟨c', clock', r⟩ := answer
    rcases hmove.of_live hl with ⟨a, hr, rfl, rfl⟩ | ⟨rfl, hdone⟩ | ⟨f, rfl, -⟩
    · obtain ⟨hat, hn⟩ := h.ready hr
      obtain ⟨hchunk, hat'⟩ := hat.emit hr.active hn
      have hbudget : ¬ 0 < a.emit.1.budget := by
        show ¬ 0 < a.budget
        rwa [hr.budget_eq]
      obtain ⟨hstate, hlist⟩ := ih hat' (Or.inr (emit_active hr.active)) hbudget
        (hr.deadline_none hb hd) clock' (by omega)
      refine ⟨hstate, ?_⟩
      have hleft : passes * perPass total size - n =
          passes * perPass total size - (n + 1) + 1 := by omega
      show a.emit.2 :: a.emit.1.drained m clock' = _
      rw [hlist, hchunk, hleft, List.range_succ_eq_map, List.map_cons, List.map_map]
      refine congrArg _ (List.map_congr_left fun i _ => ?_)
      show numbered total size (n + 1 + i) = numbered total size (n + (i + 1))
      rw [Nat.add_assoc, Nat.add_comm 1]
    · have hend : n = passes * perPass total size := h.eq_end hl hb hd hmove rfl
      rw [← hend, Nat.sub_self]
      exact ⟨hdone, rfl⟩
    · exact absurd (congrArg (·.2.2) hnext) (next_ne_failed hl clock f)

/-- A controller for one pass, drained, hands out the chunks of the pass. -/
theorem length_drained (hc : make t { chunkSize := s, passes := 1 } = .ok c) (clock : Clock)
    (hm : perPass t.toInt.toNat s.toInt.toNat < m) :
    (c.drain m clock).1.state = .done ∧
      (c.drained m clock).length = perPass t.toInt.toNat s.toInt.toNat := by
  have hat := make_at hc
  obtain ⟨-, rfl⟩ := make_eq_ok hc
  have hbudget : ¬ (0 : Duration) < 0 := by decide
  obtain ⟨hstate, hlist⟩ := hat.drain (m := m) (Or.inl rfl) hbudget rfl clock (by simpa using hm)
  refine ⟨hstate, ?_⟩
  rw [hlist, List.length_map, List.length_range]
  simp

/-- **The announcement is right exactly if its sum is a word.** A controller for one pass, drained
without a budget of time, hands out as many chunks as the quotient, rounded up, says. The
announcement is that number as long as the sum is a word, and from there on it is not positive. -/
theorem chunkCount_eq_drained_iff (ht : 0 ≤ t) (hs : 1 ≤ s) :
    ∃ c, make t { chunkSize := s, passes := 1 } = .ok c ∧
      ∀ (n : Nat) (clock : Clock), ⌈(t.toInt : ℚ) / s.toInt⌉ < n →
        (c.drain n clock).1.state = .done ∧
        ((c.drained n clock).length : ℤ) = ⌈(t.toInt : ℚ) / s.toInt⌉ ∧
        ((chunkCount t s).toInt = (c.drained n clock).length ↔
          t.toInt + s.toInt - 1 < 2 ^ 63) ∧
        (2 ^ 63 ≤ t.toInt + s.toInt - 1 →
          (chunkCount t s).toInt = (t.toInt + s.toInt - 1 - 2 ^ 64).tdiv s.toInt ∧
            (chunkCount t s).toInt ≤ 0) := by
  obtain ⟨c, hc⟩ := make_isOk (p := { chunkSize := s, passes := 1 }) ht hs
  have hnonneg : 0 ≤ t.toInt := Int64.le_iff_toInt_le.mp ht
  have hpos : 1 ≤ s.toInt := Int64.le_iff_toInt_le.mp hs
  have hslt := s.toInt_lt
  have hceil : ⌈(t.toInt : ℚ) / s.toInt⌉ = perPass t.toInt.toNat s.toInt.toNat := by
    have htotal : (t.toInt : ℚ) = (t.toInt.toNat : ℚ) := by
      exact_mod_cast (Int.toNat_of_nonneg hnonneg).symm
    have hsize : (s.toInt : ℚ) = (s.toInt.toNat : ℚ) := by
      exact_mod_cast (Int.toNat_of_nonneg (by omega)).symm
    rw [htotal, hsize, Chunk.perPass_eq_ceil (by omega)]
  rw [hceil]
  refine ⟨c, hc, fun n clock hn => ?_⟩
  obtain ⟨hstate, hlength⟩ := length_drained hc clock (Int.ofNat_lt.mp hn)
  have hbeyond (h : 2 ^ 63 ≤ t.toInt + s.toInt - 1) :=
    chunkCount_of_le (Int64.lt_iff_toInt_lt.mpr (show 0 < t.toInt by omega)) hs h
  rw [hlength]
  refine ⟨hstate, rfl, ⟨fun heq => ?_, chunkCount_of_lt ht hs⟩, hbeyond⟩
  by_contra hlarge
  have htotal : 0 < t.toInt.toNat := by omega
  have hsome : 0 < perPass t.toInt.toNat s.toInt.toNat := Chunk.perPass_pos (by omega) htotal
  have hnone := (hbeyond (by omega)).2
  omega

/-- Five events in chunks of two: three are announced and handed out. -/
theorem chunkCount_eq_drained_five_by_two :
    ∃ c, make 5 { chunkSize := 2, passes := 1 } = .ok c ∧
      (c.drained 9 ⟨0, 1⟩).length = 3 ∧ (chunkCount 5 2).toInt = 3 := by
  obtain ⟨c, hc, hdrained⟩ := chunkCount_eq_drained_iff (t := 5) (s := 2) (by decide) (by decide)
  have hceil : ⌈((5 : Int64).toInt : ℚ) / (2 : Int64).toInt⌉ = 3 := by
    have h : (perPass 5 2 : ℤ) = ⌈((5 : Nat) : ℚ) / (2 : Nat)⌉ := Chunk.perPass_eq_ceil (by decide)
    exact_mod_cast h.symm
  rw [hceil] at hdrained
  obtain ⟨-, hlength, hright, -⟩ := hdrained 9 ⟨0, 1⟩ (by decide)
  have hthree : (c.drained 9 ⟨0, 1⟩).length = 3 := by exact_mod_cast hlength
  refine ⟨c, hc, hthree, ?_⟩
  rw [hright.mpr (by decide), hthree]
  rfl

/-- **The announcement may be wrong**: the sum of two and the largest size is no word. One chunk is
handed out, and minus one is announced. -/
theorem chunkCount_misses_drained :
    ∃ c, make 2 { chunkSize := Int64.maxValue, passes := 1 } = .ok c ∧
      (c.drain 9 ⟨0, 1⟩).1.state = .done ∧ (c.drained 9 ⟨0, 1⟩).length = 1 ∧
      chunkCount 2 Int64.maxValue = -1 := by
  refine ⟨_, rfl, ?_, ?_, by decide⟩
  · decide +kernel
  · decide +kernel

end Flow.Controller

end DetectorStream
