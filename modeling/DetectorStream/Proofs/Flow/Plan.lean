import DetectorStream.Flow.Chunk
import Mathlib.Tactic.Ring

/-!
# The plan of a stream

`Chunk.ofPlan` lists the chunks of all passes pass by pass. A controller counts them with one
running number instead, so this file gives the plan a second form: chunk number `n` of the plan is
`numbered total size n`, whose pass and place in the pass are the quotient and the remainder of `n`
by the number of chunks in a pass.

* **`ofPlan_eq_map_numbered`**: both forms list the same chunks.
* `length_pos_of_mem_ofPlan`, `stop_le_of_mem_ofPlan`: a chunk of the plan is a non-empty range of
  the sequence.
* **`flatMap_slice_ofPass`**: the ranges of one pass, cut out of any list of the right length and
  put together again, are that list. `flatMap_slots_ofPass` is the case of the list of offsets.
* `filter_pass_take_ofPlan`: a pass that has been handed out whole is found again by its number.
-/

namespace DetectorStream.Chunk

variable {total size passes : Nat}

/-! ## Chunks in a pass -/

theorem perPass_zero (hs : 0 < size) : perPass 0 size = 0 := by
  unfold perPass
  exact Nat.div_eq_of_lt (by omega)

theorem le_perPass_mul (hs : 0 < size) : total ≤ perPass total size * size := by
  unfold perPass
  have h := Nat.div_add_mod (total + size - 1) size
  have hm := Nat.mod_lt (total + size - 1) hs
  rw [Nat.mul_comm] at h
  omega

theorem mul_lt_of_lt_perPass {j : Nat} (hs : 0 < size) (hj : j < perPass total size) :
    j * size < total := by
  unfold perPass at hj
  have h : (j + 1) * size ≤ total + size - 1 := (Nat.le_div_iff_mul_le hs).mp hj
  rw [Nat.succ_mul] at h
  omega

theorem perPass_pos (hs : 0 < size) (ht : 0 < total) : 0 < perPass total size := by
  have h : total ≤ perPass total size * size := le_perPass_mul hs
  by_contra h0
  rw [Nat.eq_zero_of_not_pos h0, Nat.zero_mul] at h
  omega

/-- A range that is not the last of its pass has the full size and stops before the end. -/
theorem succ_mul_lt_of_lt_perPass {j : Nat} (hs : 0 < size) (hj : j + 1 < perPass total size) :
    j * size + size < total := by
  have h := mul_lt_of_lt_perPass hs hj
  rwa [Nat.succ_mul] at h

theorem le_succ_mul_of_eq_perPass {j : Nat} (hs : 0 < size) (hj : j + 1 = perPass total size) :
    total ≤ j * size + size := by
  have h : total ≤ perPass total size * size := le_perPass_mul hs
  rwa [← hj, Nat.succ_mul] at h

/-! ## Numbering the chunks of all passes -/

/-- Chunk number `n` of a plan, counted through all passes. -/
def numbered (total size n : Nat) : Chunk :=
  nth total size (n / perPass total size) (n % perPass total size)

theorem numbered_mul_add {p j : Nat} (hj : j < perPass total size) :
    numbered total size (p * perPass total size + j) = nth total size p j := by
  have hm : 0 < perPass total size := by omega
  unfold numbered
  rw [Nat.mul_comm, Nat.mul_add_div hm, Nat.mul_add_mod, Nat.mod_eq_of_lt hj, Nat.div_eq_of_lt hj,
    Nat.add_zero]

theorem numbered_seq (total size n : Nat) : (numbered total size n).seq = n := by
  simp only [numbered, nth]
  rw [Nat.mul_comm]
  exact Nat.div_add_mod n _

/-- Counting on from the last chunk of a pass leads to the first of the next. -/
theorem succ_div_mod_of_last {n m : Nat} (h : n % m + 1 = m) :
    (n + 1) / m = n / m + 1 ∧ (n + 1) % m = 0 := by
  have hn : n + 1 = m * (n / m) + m := by
    have := Nat.div_add_mod n m
    omega
  rw [hn, Nat.mul_add_div (by omega), Nat.mul_add_mod, Nat.div_self (by omega), Nat.mod_self]
  exact ⟨rfl, rfl⟩

theorem succ_div_mod_of_lt {n m : Nat} (h : n % m + 1 < m) :
    (n + 1) / m = n / m ∧ (n + 1) % m = n % m + 1 := by
  have hn : n + 1 = m * (n / m) + (n % m + 1) := by
    have := Nat.div_add_mod n m
    omega
  have hdiv : (n + 1) / m = n / m := by
    rw [hn, Nat.mul_add_div (by omega), Nat.div_eq_of_lt h, Nat.add_zero]
  have hmod : (n + 1) % m = n % m + 1 := by
    rw [hn, Nat.mul_add_mod, Nat.mod_eq_of_lt h]
  exact ⟨hdiv, hmod⟩

theorem ofPass_eq_map_numbered (p : Nat) :
    ofPass total size p =
      (List.range (perPass total size)).map fun j =>
        numbered total size (p * perPass total size + j) := by
  refine List.map_congr_left fun j hj => ?_
  rw [numbered_mul_add (List.mem_range.mp hj)]

/-- **The plan pass by pass is the plan by running number.** -/
theorem ofPlan_eq_map_numbered (total size passes : Nat) :
    ofPlan total size passes =
      (List.range (passes * perPass total size)).map (numbered total size) := by
  induction passes with
  | zero => simp [ofPlan]
  | succ p ih =>
    unfold ofPlan at ih ⊢
    rw [List.range_succ, List.flatMap_append, ih, Nat.succ_mul, List.range_add, List.map_append,
      List.map_map, List.flatMap_singleton, ofPass_eq_map_numbered]
    rfl

@[simp] theorem length_ofPlan (total size passes : Nat) :
    (ofPlan total size passes).length = passes * perPass total size := by
  rw [ofPlan_eq_map_numbered, List.length_map, List.length_range]

theorem take_ofPlan {n : Nat} (hn : n ≤ passes * perPass total size) :
    (ofPlan total size passes).take n = (List.range n).map (numbered total size) := by
  rw [ofPlan_eq_map_numbered, ← List.map_take, List.take_range, Nat.min_eq_left hn]

theorem mem_ofPlan {c : Chunk} :
    c ∈ ofPlan total size passes ↔
      ∃ p j, p < passes ∧ j < perPass total size ∧ nth total size p j = c := by
  simp only [ofPlan, ofPass, List.mem_flatMap, List.mem_map, List.mem_range]
  constructor
  · rintro ⟨p, hp, j, hj, rfl⟩
    exact ⟨p, j, hp, hj, rfl⟩
  · rintro ⟨p, j, hp, hj, rfl⟩
    exact ⟨p, hp, j, hj, rfl⟩

theorem length_pos_of_mem_ofPlan (hs : 0 < size) {c : Chunk} (hc : c ∈ ofPlan total size passes) :
    0 < c.length := by
  obtain ⟨p, j, -, hj, rfl⟩ := mem_ofPlan.mp hc
  have h := mul_lt_of_lt_perPass hs hj
  simp only [nth]
  omega

theorem stop_le_of_mem_ofPlan (hs : 0 < size) {c : Chunk} (hc : c ∈ ofPlan total size passes) :
    c.stop ≤ total := by
  obtain ⟨p, j, -, hj, rfl⟩ := mem_ofPlan.mp hc
  have h := mul_lt_of_lt_perPass hs hj
  simp only [stop, nth]
  omega

/-! ## A pass covers the sequence -/

/-- The part of a list that a chunk stands for. -/
def slice {α : Type} (l : List α) (c : Chunk) : List α := (l.drop c.offset).take c.length

/-- The offsets that a chunk covers. -/
def slots (c : Chunk) : List Nat := List.range' c.offset c.length

theorem slice_nth {α : Type} (l : List α) (size p j : Nat) :
    slice l (nth l.length size p j) = (l.drop (j * size)).take size := by
  simp only [slice, nth]
  rw [List.take_eq_take_iff, List.length_drop]
  omega

/-- The first `n` ranges of a pass make up the first `n * size` entries. -/
theorem flatMap_slice_range {α : Type} (l : List α) (size p n : Nat) :
    ((List.range n).map (nth l.length size p)).flatMap (slice l) = l.take (n * size) := by
  induction n with
  | zero => simp
  | succ n ih =>
    rw [List.range_succ, List.map_append, List.flatMap_append, ih, List.map_singleton,
      List.flatMap_singleton, slice_nth, Nat.succ_mul, List.take_add]

/-- **A pass is the sequence, cut and put together again.** -/
theorem flatMap_slice_ofPass {α : Type} (l : List α) (hs : 0 < size) (p : Nat) :
    (ofPass l.length size p).flatMap (slice l) = l := by
  unfold ofPass
  rw [flatMap_slice_range, List.take_of_length_le (le_perPass_mul hs)]

theorem slots_eq_slice {c : Chunk} (h : c.stop ≤ total) : c.slots = slice (List.range total) c := by
  unfold stop at h
  unfold slots slice
  refine List.ext_getElem (by simp; omega) fun i h₁ h₂ => ?_
  simp

theorem flatMap_slots_ofPass (hs : 0 < size) (p : Nat) :
    (ofPass total size p).flatMap slots = List.range total := by
  have h := flatMap_slice_ofPass (List.range total) hs p
  rw [List.length_range] at h
  have hslots : ∀ c ∈ ofPass total size p, slots c = slice (List.range total) c := by
    intro c hc
    have hmem : c ∈ ofPlan total size (p + 1) := List.mem_flatMap.mpr ⟨p, by simp, hc⟩
    exact slots_eq_slice (stop_le_of_mem_ofPlan hs hmem)
  rw [List.flatMap_def, List.map_congr_left hslots, ← List.flatMap_def, h]

/-- The concatenation over all passes repeats the sequence once per pass. -/
theorem flatMap_slice_ofPlan {α : Type} (l : List α) (hs : 0 < size) (passes : Nat) :
    (ofPlan l.length size passes).flatMap (slice l) = (List.replicate passes l).flatten := by
  unfold ofPlan
  induction passes with
  | zero => rfl
  | succ p ih =>
    rw [List.range_succ, List.flatMap_append, List.flatMap_append, ih, List.flatMap_singleton,
      flatMap_slice_ofPass l hs, List.replicate_succ', List.flatten_append, List.flatten_singleton]

/-! ## Finding a pass again -/

/-- A chunk that stops at the end of the sequence is the last of its pass. -/
theorem succ_eq_of_stop_eq {p j : Nat} (hs : 0 < size) (hj : j < perPass total size)
    (h : (nth total size p j).stop = total) : j + 1 = perPass total size := by
  by_contra hne
  have hlt := succ_mul_lt_of_lt_perPass hs (show j + 1 < perPass total size by omega)
  simp only [stop, nth] at h
  omega

theorem filter_pass_ofPass (p q : Nat) :
    (ofPass total size p).filter (fun c => c.pass = q) =
      if p = q then ofPass total size p else [] := by
  split
  · rename_i h
    refine List.filter_eq_self.mpr fun c hc => ?_
    obtain ⟨j, -, rfl⟩ := List.mem_map.mp hc
    exact decide_eq_true h
  · rename_i h
    refine List.filter_eq_nil_iff.mpr fun c hc => ?_
    obtain ⟨j, -, rfl⟩ := List.mem_map.mp hc
    simp [nth, h]

theorem filter_pass_ofPlan (q : Nat) :
    (ofPlan total size passes).filter (fun c => c.pass = q) =
      if q < passes then ofPass total size q else [] := by
  induction passes with
  | zero => rfl
  | succ p ih =>
    unfold ofPlan at ih ⊢
    rw [List.range_succ, List.flatMap_append, List.filter_append, ih, List.flatMap_singleton,
      filter_pass_ofPass]
    by_cases hq : q < p
    · rw [if_pos hq, if_neg (by omega), if_pos (by omega), List.append_nil]
    · rw [if_neg hq, List.nil_append]
      by_cases hp : p = q
      · rw [if_pos hp, if_pos (by omega), hp]
      · rw [if_neg hp, if_neg (by omega)]

/-- Of the first `n` chunks of a plan, those of a pass that lies wholly within them are the chunks
of that pass. -/
theorem filter_pass_take_ofPlan {n q : Nat} (hm : 0 < perPass total size)
    (hn : n ≤ passes * perPass total size) (hq : (q + 1) * perPass total size ≤ n) :
    ((ofPlan total size passes).take n).filter (fun c => c.pass = q) = ofPass total size q := by
  have hle : (q + 1) * perPass total size ≤ passes * perPass total size := hq.trans hn
  have hpass : q + 1 ≤ passes := Nat.le_of_mul_le_mul_right hle hm
  -- the passes up to `q` lie within the first `n` chunks, and these within the plan
  have hlow : ofPlan total size (q + 1) <+: (ofPlan total size passes).take n := by
    rw [List.prefix_take_iff, length_ofPlan]
    refine ⟨?_, hq⟩
    rw [ofPlan_eq_map_numbered, ← take_ofPlan hle]
    exact List.take_prefix _ _
  have hhigh : (ofPlan total size passes).take n <+: ofPlan total size passes :=
    List.take_prefix _ _
  have h₁ := hlow.filter fun c => c.pass = q
  have h₂ := hhigh.filter fun c => c.pass = q
  rw [filter_pass_ofPlan, if_pos (by omega)] at h₁ h₂
  exact h₂.eq_of_length_le h₁.length_le

end DetectorStream.Chunk
