import DetectorStream.Proofs.Batch.Tiling

/-!
# Copying event by event

The copies of a batch are made in place: the allocator gives a batch of zero events, and two nested
loops write into it, copy after copy and event after event, at places that are computed in words of
sixty-four bits. The loops never leave either batch, write each place once and in order, and end
with the copies side by side.

* `Copying`: how far the loops have come, with the places that have been written.
* `Copying.step`, `Copying.round`, `Copying.run`: one event, one copy, and all of them.
* `Copying.Filled`: the first places are those of the copies.
* `Copying.Filled.step`, `Copying.Filled.round`: one more event, and one more copy.
* **`Copying.run_eq`**: the loops end with the copies, and have written each place once.
* `amplify_copies`: what amplifying has written when it succeeds.
* **`amplify_answers_and_copies`**: when amplifying succeeds, what it answers else, and what it has
  written when it is done.
-/

namespace DetectorStream.Batch

variable {a : Allocator} {es : Array Event} {factor k i j : Nat} {offset : Int32} {e : Event}

/-! ## The loops -/

/-- How far the loops have come: the batch that is read, the batch that is written, and the places
that have been written, in order. -/
structure Copying where
  source : Batch
  result : Batch
  written : List Int64 := []

/-- A loop that never stops early keeps what each of its steps keeps. -/
theorem exists_foldlM_range {σ : Type} {f : σ → Nat → Option σ} {P : Nat → σ → Prop} {s : σ}
    {n : Nat} (hstart : P 0 s)
    (hstep : ∀ m < n, ∀ t, P m t → ∃ t', f t m = some t' ∧ P (m + 1) t') :
    ∃ t, (List.range n).foldlM f s = some t ∧ P n t := by
  induction n with
  | zero => exact ⟨s, rfl, hstart⟩
  | succ n ih =>
    obtain ⟨t, ht, hkept⟩ := ih fun m hm => hstep m (Nat.lt_succ_of_lt hm)
    obtain ⟨t', ht', hkept'⟩ := hstep n (Nat.lt_succ_self n) t hkept
    refine ⟨t', ?_, hkept'⟩
    rw [List.range_succ, List.foldlM_append, ht]
    show List.foldlM f t [n] = some t'
    rw [List.foldlM_cons, ht']
    rfl

namespace Copying

variable {c : Copying}

/-- Where event `i` of copy `k` goes, in words. -/
def place (n k i : Nat) : Int64 := Int64.ofNat k * Int64.ofNat n + Int64.ofNat i

/-- Copy event `i` into copy `k`; `none` when there is no such event, or no such place. -/
def step (offset : Int32) (k : Nat) (c : Copying) (i : Nat) : Option Copying := do
  let e ← c.source.event (Int64.ofNat i)
  let slot := place c.source.size k i
  let result ← c.result.set slot ⟨e.detector, e.timestamp + (Int64.ofNat k).toInt32 * offset⟩
  return { c with result, written := c.written ++ [slot] }

/-- Copy all events into copy `k`. -/
def round (offset : Int32) (c : Copying) (k : Nat) : Option Copying :=
  (List.range c.source.size).foldlM (step offset k) c

/-- Copy all events into all copies. -/
def run (offset : Int32) (copies : Nat) (c : Copying) : Option Copying :=
  (List.range copies).foldlM (round offset) c

/-- **The first `j` places are those of the copies**, each written once and in order, and what is
read is as it was. -/
structure Filled (es : Array Event) (factor : Nat) (offset : Int32) (j : Nat) (c : Copying) :
    Prop where
  source : c.source = live es
  result : ∃ r, c.result = live r ∧ r.size = es.size * factor ∧
    ∀ m < j, r[m]? = (tile es factor offset)[m]?
  written : c.written.map Int64.toInt = (List.range j).map fun m : Nat => (m : Int)

/-! ## Places -/

/-- No place overflows. -/
theorem toInt_place {n : Nat} (h : k * n + i < 2 ^ 63) :
    (place n k i).toInt = (k * n + i : Nat) := by
  unfold place
  rw [← Int64.ofNat_mul, ← Int64.ofNat_add, Int64.toInt_ofNat_of_lt h]

theorem place_lt {n : Nat} (hk : k < factor) (hi : i < n) : k * n + i < n * factor := by
  have hcopies : (k + 1) * n ≤ factor * n := Nat.mul_le_mul_right n hk
  rw [Nat.succ_mul, Nat.mul_comm factor] at hcopies
  omega

theorem event_live (hi : i < es.size) (hes : es.size < 2 ^ 63) :
    (live es).event (Int64.ofNat i) = some es[i] := by
  unfold event
  rw [Int64.toInt_ofNat_of_lt (by omega), if_pos (Int.natCast_nonneg i), Int.toNat_natCast]
  exact Array.getElem?_eq_getElem hi

theorem set_live {r : Array Event} {w : Int64} (hw : w.toInt = j) (hj : j < r.size) (e : Event) :
    (live r).set w e = some (live (r.setIfInBounds j e)) := by
  unfold set
  simp only [hw, Int.toNat_natCast]
  rw [if_pos ⟨Int.natCast_nonneg j, Int.ofNat_lt.mpr hj⟩]

/-! ## One event, one copy, all copies -/

/-- One more event. -/
theorem Filled.step (h : Filled es factor offset (k * es.size + i) c) (hk : k < factor)
    (hi : i < es.size) (hfits : es.size * factor < 2 ^ 63) :
    ∃ c', c.step offset k i = some c' ∧ Filled es factor offset (k * es.size + (i + 1)) c' := by
  obtain ⟨source, result, written⟩ := c
  obtain ⟨rfl, ⟨r, rfl, hr, hsame⟩, hwritten⟩ := h
  have hplace : k * es.size + i < es.size * factor := place_lt hk hi
  have hes : es.size ≤ es.size * factor := Nat.le_mul_of_pos_right _ (by omega)
  have hword : (place es.size k i).toInt = (k * es.size + i : Nat) := toInt_place (by omega)
  refine ⟨⟨live es, live (r.setIfInBounds (k * es.size + i) (shifted offset k es[i])),
    written ++ [place es.size k i]⟩, ?_, rfl, ⟨_, rfl, ?_, fun m hm => ?_⟩, ?_⟩
  · unfold Copying.step
    simp only [event_live hi (Nat.lt_of_le_of_lt hes hfits)]
    show (live r).set (place es.size k i) _ >>= _ = _
    rw [set_live hword (by omega), Int64.toInt32_ofNat']
    rfl
  · rw [Array.size_setIfInBounds, hr]
  · rw [Array.getElem?_setIfInBounds]
    split_ifs with hlast hinside
    · rw [← hlast]
      exact (getElem?_tile hk (Array.getElem?_eq_getElem hi)).symm
    · omega
    · exact hsame m (by omega)
  · rw [List.map_append, hwritten, ← Nat.add_assoc, List.range_succ, List.map_append,
      List.map_singleton, List.map_singleton, hword]

/-- One more copy. -/
theorem Filled.round (h : Filled es factor offset (k * es.size) c) (hk : k < factor)
    (hfits : es.size * factor < 2 ^ 63) :
    ∃ c', c.round offset k = some c' ∧ Filled es factor offset ((k + 1) * es.size) c' := by
  unfold Copying.round
  rw [h.source, Nat.succ_mul]
  exact exists_foldlM_range (P := fun m => Filled es factor offset (k * es.size + m)) h
    fun m hm d hd => hd.step hk hm hfits

/-- **The loops end with the copies side by side**: each place is written once, in order, and the
events that are read are as they were. -/
theorem run_eq (hfits : es.size * factor < 2 ^ 63) {r : Array Event}
    (hr : r.size = es.size * factor) :
    ∃ places, run offset factor ⟨live es, live r, []⟩ =
        some ⟨live es, live (tile es factor offset), places⟩ ∧
      places.map Int64.toInt = (List.range (es.size * factor)).map fun m : Nat => (m : Int) := by
  have hstart : Filled es factor offset (0 * es.size) ⟨live es, live r, []⟩ := by
    rw [Nat.zero_mul]
    exact ⟨rfl, ⟨r, rfl, hr, fun m hm => absurd hm (Nat.not_lt_zero m)⟩, rfl⟩
  obtain ⟨⟨source, result, places⟩, hrun, hsource, ⟨t, hresult, ht, hsame⟩, hplaces⟩ :=
    exists_foldlM_range (P := fun m => Filled es factor offset (m * es.size)) hstart
      fun k hk d hd => hd.round hk hfits
  rw [Nat.mul_comm factor] at hsame hplaces
  have hcopies : t = tile es factor offset := by
    refine Array.ext_getElem? fun m => ?_
    by_cases hm : m < es.size * factor
    · exact hsame m hm
    · rw [Array.getElem?_eq_none (by omega), Array.getElem?_eq_none (by rw [size_tile]; omega)]
  refine ⟨places, ?_, hplaces⟩
  unfold run
  rw [hrun]
  simp only at hsource hresult
  rw [hsource, hresult, hcopies]

end Copying

/-! ## Amplifying -/

/-- The product of the words is the exact product, as far as that is one. -/
theorem ofInt_product (n : Nat) (f : Int64) :
    Int64.ofInt (n * f.toInt) = Int64.ofNat n * f := by
  rw [Int64.ofInt_mul, Int64.ofInt_toInt, Int64.ofInt_eq_ofNat]

/-- The copies are written into a batch of zero events, as many as the exact product says. -/
theorem new_product {f : Int64} (hf : 1 ≤ f.toInt) (hfits : a.Fits (es.size * f.toInt))
    (hcolumn : es.size * f.toInt ≤ Allocator.maxColumn) :
    (Int64.ofNat es.size * f).toInt = es.size * f.toInt ∧
      new a (Int64.ofNat es.size * f) =
        .ok (live (Array.replicate (es.size * f.toInt.toNat) ⟨0, 0⟩)) := by
  have hnonneg := hfits.1
  have hword : (Int64.ofNat es.size * f).toInt = es.size * f.toInt := by
    rw [← ofInt_product]
    unfold Allocator.maxColumn at hcolumn
    exact Int64.toInt_ofInt_of_le (by omega) (by omega)
  refine ⟨hword, ?_⟩
  have hsize : (es.size * f.toInt).toNat = es.size * f.toInt.toNat := by
    rw [Int.toNat_mul (Int.natCast_nonneg _) (by omega), Int.toNat_natCast]
  obtain ⟨⟨⟩, hgranted, -⟩ := (a.check_answers (Int64.ofNat es.size * f)).of_fits
    (hword.symm ▸ hfits) (hword.symm ▸ hcolumn)
  unfold new
  rw [hgranted, hword, hsize]

/-- **What amplifying has written when it succeeds**: it has asked for the exact product, and copying
event by event into what it was given writes each place once, in order, ends with the copies and
leaves the events as they are. -/
theorem amplify_copies {factor : Int64} {b : Batch} (hfactor : 1 ≤ factor.toInt)
    (h : (live es).amplify factor a offset = .ok b) :
    Tiles es factor.toInt.toNat offset b ∧
      (Int64.ofNat es.size * factor).toInt = es.size * factor.toInt ∧
      ∃ zeros places, new a (Int64.ofNat es.size * factor) = .ok zeros ∧
        Copying.run offset factor.toInt.toNat ⟨live es, zeros, []⟩ =
          some ⟨live es, b, places⟩ ∧
        places.map Int64.toInt =
          (List.range (es.size * factor.toInt.toNat)).map fun m : Nat => (m : Int) := by
  obtain ⟨hfits, hcolumn, rfl⟩ := (amplify_grants a es hfactor offset).of_ok h
  obtain ⟨hword, hnew⟩ := new_product hfactor hfits hcolumn
  have hexact : (es.size * factor.toInt : Int) = (es.size * factor.toInt.toNat : Nat) := by
    rw [Int.natCast_mul, Int.toNat_of_nonneg (by omega)]
  have hsize : es.size * factor.toInt.toNat < 2 ^ 63 := by
    unfold Allocator.maxColumn at hcolumn
    omega
  obtain ⟨places, hrun, hplaces⟩ := Copying.run_eq hsize (Array.size_replicate ..)
  exact ⟨tile_tiles _ _ _, hword, _, places, hnew, hrun, hplaces⟩

theorem amplify_of_lt {factor : Int64} (h : factor.toInt < 1) :
    (live es).amplify factor a offset = .error (.fault (.report .configuration
      ("amplification factor must be >= 1, got " ++ Decimal.ofInt factor.toInt))) := if_pos h

/-- **What amplifying answers, and what it has written when it is done.** It succeeds exactly if the
factor is positive and the exact product gets through the check, as far as a column can address so
many events; beyond that it crashes. When it succeeds, copying event by event has written each place
once, and the events are as they were. -/
theorem amplify_answers_and_copies (a : Allocator) (es : Array Event) (factor : Int64)
    (offset : Int32) :
    ((∃ b, (live es).amplify factor a offset = .ok b) ↔
      1 ≤ factor.toInt ∧ a.Passes (es.size * factor.toInt) ∧
        es.size * factor.toInt ≤ Allocator.maxColumn) ∧
    ((live es).amplify factor a offset = .error .crash ↔
      1 ≤ factor.toInt ∧ a.Passes (es.size * factor.toInt) ∧
        Allocator.maxColumn < es.size * factor.toInt) ∧
    (∀ f, (live es).amplify factor a offset = .error (.fault f) →
      factor.toInt < 1 ∧ f.kind = .configuration ∨
        1 ≤ factor.toInt ∧ ¬ a.Passes (es.size * factor.toInt) ∧ f.kind = .allocation) ∧
    ∀ b, (live es).amplify factor a offset = .ok b →
      Tiles es factor.toInt.toNat offset b ∧
        (Int64.ofNat es.size * factor).toInt = es.size * factor.toInt ∧
        ∃ zeros places, new a (Int64.ofNat es.size * factor) = .ok zeros ∧
          Copying.run offset factor.toInt.toNat ⟨live es, zeros, []⟩ =
            some ⟨live es, b, places⟩ ∧
          places.map Int64.toInt =
            (List.range (es.size * factor.toInt.toNat)).map fun m : Nat => (m : Int) := by
  rw [Allocator.passes_iff]
  by_cases hfactor : 1 ≤ factor.toInt
  · have hanswer := amplify_grants a es hfactor offset
    refine ⟨⟨?_, ?_⟩, ?_, fun f hf => ?_, fun b hb => amplify_copies hfactor hb⟩
    · rintro ⟨b, hb⟩
      obtain ⟨hfits, hcolumn, -⟩ := hanswer.of_ok hb
      exact ⟨hfactor, hfits, hcolumn⟩
    · rintro ⟨-, hfits, hcolumn⟩
      obtain ⟨b, hb, -⟩ := hanswer.of_fits hfits hcolumn
      exact ⟨b, hb⟩
    · rw [hanswer.crashed_iff]
      exact ⟨fun h => ⟨hfactor, h⟩, fun h => h.2⟩
    · obtain ⟨hmisfit, hkind⟩ := hanswer.of_fault hf
      exact Or.inr ⟨hfactor, hmisfit, hkind⟩
  · rw [amplify_of_lt (by omega)]
    refine ⟨⟨nofun, fun h => absurd h.1 hfactor⟩, ⟨nofun, fun h => absurd h.1 hfactor⟩, ?_, nofun⟩
    rintro _ ⟨⟩
    exact Or.inl ⟨by omega, rfl⟩

/-- **Amplifying may crash on what gets through the check**: one event, copied `2 ^ 46` times. -/
theorem amplify_crashes_beyond_columns :
    Allocator.unlimited.Passes (1 * 0x400000000000) ∧
      (live #[⟨0, 0⟩]).amplify 0x400000000000 .unlimited 0 = .error .crash := by
  have hpasses : Allocator.unlimited.Passes (1 * 0x400000000000) :=
    ⟨0x400000000000, by decide, by decide⟩
  have hfactor : 1 ≤ (0x400000000000 : Int64).toInt := by decide
  exact ⟨hpasses, (amplify_grants .unlimited #[⟨0, 0⟩] hfactor 0).crashed_iff.mpr
    ⟨Allocator.passes_iff.mp hpasses, by decide⟩⟩

end DetectorStream.Batch
