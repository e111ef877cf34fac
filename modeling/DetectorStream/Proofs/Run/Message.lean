import DetectorStream.Proofs.Run.Course

/-!
# The messages of a run

Message number `k` of a run follows from the batch and the settings alone. This file says what it
is without going through a controller: which events it carries, under which number and with which
pulse time.

* `Setup.planned`: message number `k`.
* `slice_chunk`: the chunks of a run lie within the batch.
* **`messageAt_eq_planned`**: the message that a run makes of chunk `k` is message `k`.
* **`flatMap_planned_columns`**: all messages together carry the columns of the batch, as often as
  there are passes.
-/

namespace DetectorStream.Run

open Chunk (perPass numbered nth ofPlan)

variable {σ : Type} {u : Setup σ} {b : Batch} {c : Chunk} {k : Nat}

/-! ## Slices of a batch -/

theorem events_released : Batch.released.events = #[] := rfl

/-- A range that lies within the batch can be sliced off. -/
theorem slice_of_stop_le (hb : b.size < 2 ^ 63) (hc : c.stop ≤ b.size) :
    b.slice (Int64.ofNat c.offset) (Int64.ofNat c.length) =
      some (Columns.ofEvents (c.slice b.events.toList)) := by
  unfold Chunk.stop at hc
  cases b with
  | released => simp [Batch.slice, Batch.range, Chunk.slice, events_released]
  | live es =>
    have hsize : c.offset + c.length ≤ es.size := hc
    have hlt : es.size < 2 ^ 63 := hb
    have hstart : (Int64.ofNat c.offset).toInt = c.offset := Int64.toInt_ofNat_of_lt (by omega)
    have hstop : (Int64.ofNat c.offset + Int64.ofNat c.length).toInt =
        ((c.offset + c.length : Nat) : Int) := by
      rw [← Int64.ofNat_add, Int64.toInt_ofNat_of_lt (by omega)]
    unfold Batch.slice Batch.range
    simp only [hstart, hstop]
    rw [if_pos (by omega), Option.map_some, Array.toList_extract, Int.toNat_natCast,
      Int.toNat_natCast, List.extract_eq_take_drop, Nat.add_sub_cancel_left]
    rfl

/-! ## Pulse times -/

theorem toNat_pulseTime (pass : Nat) (timestamps : List Int32) :
    (pulseTime pass timestamps).toNat =
      pass % 2 ^ 32 * 2 ^ 32 + (timestamps.head?.getD 0).toUInt32.toNat := by
  have hpass : pass % 2 ^ 32 < 2 ^ 32 := Nat.mod_lt _ (by decide)
  have hfirst := (timestamps.head?.getD 0).toUInt32.toNat_lt
  have hupper : (pass.toUInt32.toUInt64 <<< 32).toNat = (pass % 2 ^ 32) <<< 32 := by
    rw [UInt64.toNat_shiftLeft]
    show (pass % 2 ^ 32) <<< 32 % 2 ^ 64 = _
    rw [Nat.shiftLeft_eq]
    exact Nat.mod_eq_of_lt (by omega)
  unfold pulseTime
  rw [UInt64.toNat_or, hupper, UInt32.toNat_toUInt64, ← Nat.shiftLeft_add_eq_or_of_lt hfirst,
    Nat.shiftLeft_eq]

/-! ## Message number `k` -/

/-- **Message number `k` of a run.** -/
def Setup.planned (u : Setup σ) (b : Batch) (k : Nat) : Message :=
  let columns := Columns.ofEvents ((u.chunk b k).slice b.events.toList)
  { sourceName := u.settings.sourceName
    id := UInt64.ofNat k
    pulseTime := UInt64.ofNat ((u.chunk b k).pass % 2 ^ 32 * 2 ^ 32 +
      (columns.timestamps.head?.getD 0).toUInt32.toNat)
    columns := columns }

theorem chunk_mem_plan (hk : k < u.count b) : u.chunk b k ∈ ofPlan b.size u.size u.passes := by
  rw [Chunk.ofPlan_eq_map_numbered]
  exact List.mem_map.mpr ⟨k, List.mem_range.mpr hk, rfl⟩

/-- The chunks of a run lie within the batch. -/
theorem slice_chunk (hb : b.size < 2 ^ 63) (hs : 0 < u.size) (hk : k < u.count b) :
    b.slice (Int64.ofNat (u.chunk b k).offset) (Int64.ofNat (u.chunk b k).length) =
      some (u.planned b k).columns :=
  slice_of_stop_le hb (Chunk.stop_le_of_mem_ofPlan hs (chunk_mem_plan hk))

/-- **What a run makes of chunk `k` is message number `k`.** -/
theorem messageAt_eq_planned (hb : b.size < 2 ^ 63) (hs : 0 < u.size) (hk : k < u.count b) :
    u.messageAt b k = u.planned b k := by
  have hpulse : ∀ ts : List Int32, pulseTime (u.chunk b k).pass ts =
      UInt64.ofNat ((u.chunk b k).pass % 2 ^ 32 * 2 ^ 32 + (ts.head?.getD 0).toUInt32.toNat) := by
    intro ts
    rw [← toNat_pulseTime, UInt64.ofNat_toNat]
  unfold Setup.messageAt message
  rw [slice_chunk hb hs hk, Option.getD_some]
  simp only [hpulse]
  unfold Setup.chunk
  rw [Chunk.numbered_seq]
  rfl

/-! ## All messages together -/

theorem flatMap_planned_events (hs : 0 < u.size) :
    (List.range (u.count b)).flatMap (fun k => (u.chunk b k).slice b.events.toList) =
      (List.replicate u.passes b.events.toList).flatten := by
  have h := Chunk.flatMap_slice_ofPlan b.events.toList hs u.passes
  rw [Chunk.ofPlan_eq_map_numbered, List.flatMap_map] at h
  exact h

/-- **All messages of a run together carry the columns of the batch, once for each pass.** -/
theorem flatMap_planned_columns (hs : 0 < u.size) :
    (List.range (u.count b)).flatMap (fun k => (u.planned b k).columns.ids) =
        (List.replicate u.passes b.columns.ids).flatten ∧
      (List.range (u.count b)).flatMap (fun k => (u.planned b k).columns.timestamps) =
        (List.replicate u.passes b.columns.timestamps).flatten := by
  have h : ∀ {α : Type} (f : Event → α),
      (List.range (u.count b)).flatMap
          (fun k => ((u.chunk b k).slice b.events.toList).map f) =
        (List.replicate u.passes (b.events.toList.map f)).flatten := by
    intro α f
    rw [← List.map_flatMap, flatMap_planned_events hs, List.map_flatten, List.map_replicate]
  exact ⟨h Event.detector, h Event.timestamp⟩

/-- A chunk slices off as many events as its length says. -/
theorem length_slice_chunk (hs : 0 < u.size) (hk : k < u.count b) :
    ((u.chunk b k).slice b.events.toList).length = (u.chunk b k).length := by
  have hstop := Chunk.stop_le_of_mem_ofPlan hs (chunk_mem_plan hk)
  have hsize : b.events.toList.length = b.size := Array.length_toList
  unfold Chunk.stop at hstop
  unfold Chunk.slice
  rw [List.length_take, List.length_drop, hsize]
  omega

/-- The lengths of all chunks of a run add up to the events of the batch, once for each pass. -/
theorem sum_length_chunk (hs : 0 < u.size) :
    ((List.range (u.count b)).map fun k => (u.chunk b k).length).sum = u.passes * b.size := by
  have hlength : ∀ k ∈ List.range (u.count b),
      (u.chunk b k).length = ((u.chunk b k).slice b.events.toList).length :=
    fun k hk => (length_slice_chunk hs (List.mem_range.mp hk)).symm
  have hflat := congrArg List.length (flatMap_planned_events (u := u) (b := b) hs)
  rw [List.length_flatMap, List.length_flatten, List.map_replicate, List.sum_replicate_nat] at hflat
  rw [List.map_congr_left hlength, hflat]
  rfl

end DetectorStream.Run
