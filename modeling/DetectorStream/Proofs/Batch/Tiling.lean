import DetectorStream.Batch.Amplify
import DetectorStream.Proofs.Batch.Requests

/-!
# Copies side by side

Amplifying lays copies of a batch side by side, each later than the one before. A product that is
too large is found out by a division, before it is formed, so what the allocator is asked for is the
exact number of events.

* `Batch.Tiles`: a batch that holds so many copies of some events.
* `Batch.getElem?_tile`: the place of an event in a copy.
* `Batch.shifted_eq`: a time is moved as exact numbers are, and then wrapped.
* `Batch.toList_tile_zero`: copies that are not moved in time repeat the events.
* **`Batch.amplify_grants`**, `Batch.amplify_answers`: amplifying answers a request for the exact
  product, and what is granted are the copies.
-/

namespace DetectorStream.Batch

variable {a : Allocator} {es : Array Event} {factor k i : Nat} {offset : Int32} {e : Event}

/-- **The batch holds `factor` copies of the events**: slot `k * n + i` has the detector of event
`i`, and its time with `k` offsets added in exact numbers and then wrapped. -/
structure Tiles (es : Array Event) (factor : Nat) (offset : Int32) (b : Batch) : Prop where
  live : b.isReleased = false
  size : b.size = es.size * factor
  slot : ∀ k < factor, ∀ i e, es[i]? = some e → b.events[k * es.size + i]? =
    some ⟨e.detector, Int32.ofInt (e.timestamp.toInt + k * offset.toInt)⟩

/-- A time is moved as exact numbers are, and then wrapped. -/
theorem shifted_eq (offset : Int32) (k : Nat) (e : Event) : shifted offset k e =
    ⟨e.detector, Int32.ofInt (e.timestamp.toInt + k * offset.toInt)⟩ := by
  unfold shifted shift
  rw [Int32.ofInt_add, Int32.ofInt_mul, Int32.ofInt_toInt, Int32.ofInt_toInt, Int32.ofInt_eq_ofNat]

theorem tile_eq (es : Array Event) (factor : Nat) (offset : Int32) :
    tile es factor offset = (Array.range factor).flatMap fun k => es.map (shifted offset k) := by
  unfold tile
  split_ifs with hempty
  · have hnone : es = #[] := Array.isEmpty_iff.mp hempty
    subst hnone
    simp
  · rfl

theorem tile_succ (es : Array Event) (factor : Nat) (offset : Int32) :
    tile es (factor + 1) offset = tile es factor offset ++ es.map (shifted offset factor) := by
  rw [tile_eq, tile_eq, Array.range_succ, Array.flatMap_append, Array.flatMap_singleton]

theorem size_tile (es : Array Event) (factor : Nat) (offset : Int32) :
    (tile es factor offset).size = es.size * factor := by
  induction factor with
  | zero =>
    rw [tile_eq]
    rfl
  | succ factor ih => rw [tile_succ, Array.size_append, Array.size_map, ih, Nat.mul_succ]

/-- Event `i` of copy `k` stands at its place. -/
theorem getElem?_tile (hk : k < factor) (hi : es[i]? = some e) :
    (tile es factor offset)[k * es.size + i]? = some (shifted offset k e) := by
  have hlt : i < es.size := (Array.getElem?_eq_some_iff.mp hi).1
  induction factor with
  | zero => cases hk
  | succ factor ih =>
    rw [tile_succ, Array.getElem?_append, size_tile]
    by_cases hlast : k = factor
    · subst hlast
      rw [if_neg (by rw [Nat.mul_comm]; omega), Array.getElem?_map, Nat.mul_comm es.size,
        Nat.add_sub_cancel_left, hi]
      rfl
    · have hbefore : k + 1 ≤ factor := by omega
      have hplace : (k + 1) * es.size ≤ factor * es.size := Nat.mul_le_mul_right _ hbefore
      rw [Nat.succ_mul] at hplace
      rw [if_pos (by rw [Nat.mul_comm es.size]; omega)]
      exact ih (by omega)

/-- Copies that are not moved in time repeat the events. -/
theorem toList_tile_zero (es : Array Event) (factor : Nat) :
    (tile es factor 0).toList = (List.replicate factor es.toList).flatten := by
  induction factor with
  | zero =>
    rw [tile_eq]
    rfl
  | succ factor ih =>
    have hstill : shifted 0 factor = id := by
      funext e
      simp [shifted, shift]
    rw [tile_succ, hstill, Array.map_id, Array.toList_append, ih, List.replicate_succ',
      List.flatten_append, List.flatten_singleton]

theorem tile_tiles (es : Array Event) (factor : Nat) (offset : Int32) :
    Tiles es factor offset (live (tile es factor offset)) where
  live := rfl
  size := size_tile es factor offset
  slot k hk i e hi := by
    rw [← shifted_eq]
    exact getElem?_tile hk hi

/-- A product that passes the division is the exact product. -/
theorem product_le {n : Nat} {f : Int} (hf : 1 ≤ f)
    (h : ¬ (0 < n ∧ (0x7FFFFFFFFFFFFFFF) / (n : Int) < f)) :
    0 ≤ (n : Int) * f ∧ (n : Int) * f ≤ 0x7FFFFFFFFFFFFFFF := by
  constructor
  · exact Int.mul_nonneg (by omega) (by omega)
  · rcases Nat.eq_zero_or_pos n with rfl | hn
    · simp
    · have hle : f ≤ (0x7FFFFFFFFFFFFFFF) / (n : Int) := by omega
      rw [Int.mul_comm]
      exact (Int.le_ediv_iff_mul_le (by omega)).mp hle

/-- A product that does not pass the division does not fit. -/
theorem not_fits_of_product {n : Nat} {f : Int} (h : 0 < n ∧ (0x7FFFFFFFFFFFFFFF) / (n : Int) < f) :
    ¬ a.Fits (n * f) := by
  have hmul : 0x7FFFFFFFFFFFFFFF < f * n := (Int.ediv_lt_iff_lt_mul (by omega)).mp h.2
  rw [Int.mul_comm] at hmul
  refine Allocator.not_fits_of_maxCount_lt ?_
  unfold Allocator.maxCount
  omega

/-- **Amplifying answers a request for the exact product**, and what is granted are the copies. -/
theorem amplify_grants (a : Allocator) (es : Array Event) {factor : Int64}
    (hfactor : 1 ≤ factor.toInt) (offset : Int32) :
    a.Answers (es.size * factor.toInt) (fun b => b = live (tile es factor.toInt.toNat offset))
      ((live es).amplify factor a offset) := by
  unfold amplify
  simp only
  rw [if_neg (by omega)]
  split_ifs with hproduct
  · exact .refused _ (not_fits_of_product hproduct) rfl
  · obtain ⟨hnonneg, hle⟩ := product_le hfactor hproduct
    have hword : (Int64.ofInt (es.size * factor.toInt)).toInt = es.size * factor.toInt :=
      Int64.toInt_ofInt_of_le (by omega) (by omega)
    have hanswer := a.check_answers (Int64.ofInt (es.size * factor.toInt))
    rw [hword] at hanswer
    exact Allocator.Answers.make (fun _ => rfl) hanswer

/-- The copies are events in their places. -/
theorem amplify_answers (a : Allocator) (es : Array Event) {factor : Int64}
    (hfactor : 1 ≤ factor.toInt) (offset : Int32) :
    a.Answers (es.size * factor.toInt) (Tiles es factor.toInt.toNat offset)
      ((live es).amplify factor a offset) :=
  (amplify_grants a es hfactor offset).mono fun _ hb => hb ▸ tile_tiles es factor.toInt.toNat offset

end DetectorStream.Batch
