import DetectorStream.Proofs.Flow.Handout

/-!
# What the state of a controller tells

The state of a controller says where it stands in its life, and the other fields have to agree with
it whatever calls have been made: a controller that has ended stays as it is, a recorded failure and
the state `faulted` come and go together, and a controller drains only behind its last chunk.

* `Ended.call`: a controller that has ended is changed by no call.
* `Faults`, `exists_faults`: the two ways into `faulted`, both by a failure that a streaming or
  draining controller takes.
* `Sound`, **`Sound.serve`**: the fields agree with the state after any list of calls.
* `At.emit_draining_iff`: behind which chunk a controller drains.
* `At.in_range`: where in the sequence it can stand.
* **`run_keeps_states`**: all of this for every controller that a run can reach.
-/

namespace DetectorStream.Flow.Controller

open Chunk (perPass numbered)

variable {c a : Controller} {total size passes n : Nat}

/-! ## The end -/

/-- The controller has ended. -/
def Ended (c : Controller) : Prop := c.state = .done ∨ c.state = .faulted

theorem next_faulted (h : c.state = .faulted) (w : Waits) (clock : Clock) :
    c.next w clock =
      (c, clock, match c.fault with | some f => .failed f | none => .finished) := by
  cases hf : c.fault with
  | none => simp only [next, h, hf]
  | some f => simp only [next, h, hf]

theorem fail_of_not_active (h : ¬ c.Active) (f : Fault) : c.fail f = (c, false) := by
  unfold Active at h
  unfold fail
  cases hs : c.state with
  | idle | done | faulted => rfl
  | streaming | draining => simp [hs] at h

theorem Ended.not_active (h : c.Ended) : ¬ c.Active := by
  rintro (ha | ha) <;> rcases h with h | h <;> rw [h] at ha <;> cases ha

/-- **No call changes a controller that has ended**, and none gets a chunk from it. -/
theorem Ended.call (h : c.Ended) (x : Call) :
    (c.call x).1 = c ∧ (c.call x).2.bind Next.chunk? = none := by
  cases x with
  | fail f => exact ⟨congrArg Prod.fst (fail_of_not_active h.not_active f), rfl⟩
  | next w clock =>
    simp only [Controller.call]
    rcases h with h | h
    · rw [next_done h]
      exact ⟨rfl, rfl⟩
    · rw [next_faulted h]
      cases c.fault <;> exact ⟨rfl, rfl⟩

theorem Ended.serve (h : c.Ended) (calls : List Call) : (c.serve calls).1 = c := by
  induction calls with
  | nil => rfl
  | cons x xs ih =>
    show ((c.call x).1.serve xs).1 = c
    rw [(h.call x).1, ih]

/-! ## Failures -/

/-- A failure is taken exactly if it faults the controller. -/
theorem fail_taken_iff (c : Controller) (f : Fault) :
    (c.fail f).2 = true ↔ c.state ≠ .faulted ∧ (c.fail f).1.state = .faulted := by
  by_cases ha : c.Active
  · rw [fail_active ha]
    have hne : c.state ≠ .faulted := Live.ne_faulted (Or.inr ha)
    simp [hne]
  · rw [fail_of_not_active ha]
    simp

/-- **The call faults the controller with a failure**, which a streaming or draining controller
takes: the call is the notice of it, or a wait before a chunk ends in it. An idle controller that is
asked for a chunk has begun to stream by then. -/
inductive Faults (c : Controller) : Call → Fault → Prop
  | notice (f : Fault) (h : c.Active) : Faults c (.fail f) f
  | wait (a : Controller) (w : Waits) (clock : Clock) (f : Fault) (h : Ready c a)
      (answer : (c.next w clock).2.2 = .failed f) (taken : (c.next w clock).1 = (a.fail f).1) :
      Faults c (.next w clock) f

theorem Faults.fault_eq {x : Call} {f : Fault} (h : Faults c x f) :
    (c.call x).1.state = .faulted ∧ (c.call x).1.fault = some f := by
  cases h with
  | notice f h =>
    show (c.fail f).1.state = .faulted ∧ (c.fail f).1.fault = some f
    rw [fail_active h]
    exact ⟨rfl, rfl⟩
  | wait a w clock f h answer taken =>
    show (c.next w clock).1.state = .faulted ∧ (c.next w clock).1.fault = some f
    rw [taken, fail_active h.active]
    exact ⟨rfl, rfl⟩

/-- **There is no other way to become faulted.** -/
theorem exists_faults {x : Call} (hne : c.state ≠ .faulted)
    (h : (c.call x).1.state = .faulted) : ∃ f, Faults c x f := by
  cases x with
  | fail f =>
    by_cases ha : c.Active
    · exact ⟨f, .notice f ha⟩
    · have hsame : (c.call (.fail f)).1 = c := congrArg Prod.fst (fail_of_not_active ha f)
      rw [hsame] at h
      exact absurd h hne
  | next w clock =>
    have hm := c.next_move w clock
    have hstate : (c.next w clock).1.state = .faulted := h
    generalize hc : (c.next w clock).1 = c' at hm hstate
    generalize hr : (c.next w clock).2.2 = r at hm
    cases hm with
    | done hs | faulted hs => exact absurd hstate hne
    | empty d hs h0 => cases hstate
    | exhausted ha hp => cases hstate
    | expired a hrd hd => cases hstate
    | handed a hrd =>
      rcases emit_active hrd.active with he | he <;> rw [he] at hstate <;> cases hstate
    | interrupted a f hrd =>
      refine ⟨f, .wait a w clock f hrd hr ?_⟩
      rw [hc, fail_active hrd.active]

/-- The failure that faulted a controller stays on record, and answers every later request. -/
theorem Faults.stays {x : Call} {f : Fault} (h : Faults c x f) (later : List Call) :
    ((c.call x).1.serve later).1.fault = some f ∧
      ∀ w clock, (((c.call x).1.serve later).1.next w clock).2.2 = .failed f := by
  obtain ⟨hstate, hfault⟩ := h.fault_eq
  have hended : (c.call x).1.Ended := Or.inr hstate
  rw [hended.serve]
  refine ⟨hfault, fun w clock => ?_⟩
  rw [next_faulted hstate, hfault]

/-! ## The fields and the state -/

/-- **The fields agree with the state**: behind its last chunk alone a controller drains, and a
failure is on record exactly if the controller is faulted. -/
structure Sound (c : Controller) : Prop where
  drained : c.state = .draining → c.passes ≤ c.pass
  fault_iff : c.fault.isSome = true ↔ c.state = .faulted

/-- A controller that is about to hand out a chunk is streaming. -/
theorem Ready.streaming (hr : Ready c a) (h : c.Sound) :
    a.state = .streaming ∧ a.fault = none := by
  have hnone : c.state ≠ .faulted → c.fault = none := fun hne =>
    Option.not_isSome_iff_eq_none.mp (mt h.fault_iff.mp hne)
  rcases hr with ⟨hi, -, clock, rfl⟩ | ⟨ha, hp, rfl⟩
  · obtain ⟨d, hd⟩ := c.begun_fst clock
    rw [hd]
    exact ⟨rfl, hnone (by rw [hi]; decide)⟩
  · refine ⟨?_, hnone (Live.ne_faulted (Or.inr ha))⟩
    rcases ha with hs | hs
    · exact hs
    · exact absurd (h.drained hs) (Nat.not_le.mpr hp)

theorem sound_make {t : Int64} {p : Params} (h : make t p = .ok c) : c.Sound := by
  obtain ⟨-, rfl⟩ := make_eq_ok h
  exact ⟨nofun, by simp⟩

/-- The state behind a chunk that a streaming controller hands out. -/
theorem emit_state (h : a.state = .streaming) :
    a.emit.1.state =
      if a.passes ≤ a.emit.1.pass ∧ a.emit.2.length < a.chunkSize then .draining
      else .streaming := by
  simp only [emit, h]

/-- **A call of `next` keeps the fields in agreement with the state.** -/
theorem Move.sound {c' : Controller} {r : Next} (hm : Move c c' r) (h : c.Sound) : c'.Sound := by
  cases hm with
  | done hs | faulted hs => exact h
  | empty d hs h0 =>
    refine ⟨nofun, ?_⟩
    have := h.fault_iff
    rw [hs] at this
    simpa using this
  | exhausted ha hp =>
    refine ⟨nofun, ?_⟩
    have := not_congr h.fault_iff
    have hne := Live.ne_faulted (Or.inr ha)
    simpa [hne] using this
  | interrupted a f hr => exact ⟨nofun, by simp⟩
  | expired a hr hd => exact ⟨nofun, by simp [(hr.streaming h).2]⟩
  | handed a hr =>
    obtain ⟨hs, hf⟩ := hr.streaming h
    have hstate := emit_state hs
    refine ⟨fun hd => ?_, ?_⟩
    · rw [hstate] at hd
      split at hd
      · rename_i hlast
        exact hlast.1
      · cases hd
    · have hfault : a.emit.1.fault = none := hf
      rw [hfault, hstate]
      split <;> simp

theorem Sound.fail (h : c.Sound) (f : Fault) : (c.fail f).1.Sound := by
  by_cases ha : c.Active
  · rw [fail_active ha]
    exact ⟨nofun, by simp⟩
  · rw [fail_of_not_active ha]
    exact h

/-- **The fields agree with the state after any list of calls.** -/
theorem Sound.serve (h : c.Sound) (calls : List Call) : (c.serve calls).1.Sound := by
  induction calls generalizing c with
  | nil => exact h
  | cons x xs ih =>
    show ((c.call x).1.serve xs).1.Sound
    refine ih ?_
    cases x with
    | next w clock => exact (c.next_move w clock).sound h
    | fail f => exact h.fail f

/-! ## The place in the sequence -/

/-- **The place of a controller**: inside the sequence in one of the passes, or at the beginning
with all passes over. -/
theorem At.in_range (h : At total size passes c n) (ht : 0 < total) :
    (c.offset < total ∧ c.pass < passes) ∨ (c.offset = 0 ∧ c.pass = passes) := by
  have hm : 0 < perPass total size := Chunk.perPass_pos h.size_pos ht
  rcases Nat.lt_or_eq_of_le h.le_plan with hlt | rfl
  · left
    rw [h.offset_eq, h.pass_eq]
    exact ⟨Chunk.mul_lt_of_lt_perPass h.size_pos (Nat.mod_lt n hm),
      (Nat.div_lt_iff_lt_mul hm).mpr hlt⟩
  · right
    rw [h.offset_eq, h.pass_eq, Nat.mul_mod_left, Nat.zero_mul, Nat.mul_div_cancel _ hm]
    exact ⟨rfl, rfl⟩

/-- **Behind a chunk a controller drains exactly if the chunk is the last one of the last pass and
shorter than the others.** -/
theorem At.emit_draining_iff (h : At total size passes a n) (hs : a.state = .streaming)
    (hn : n < passes * perPass total size) :
    a.emit.1.state = .draining ↔
      a.emit.2.pass + 1 = passes ∧ a.emit.2.stop = total ∧ a.emit.2.length < size := by
  have hm : 0 < perPass total size := Chunk.perPass_pos h.size_pos (h.nonempty (Or.inl hs))
  have hlt : a.pass < passes := by
    rw [h.pass_eq]
    exact (Nat.div_lt_iff_lt_mul hm).mpr hn
  have hpass : a.emit.1.pass = if a.emit.2.stop = total then a.pass + 1 else a.pass := by
    rw [← h.total_eq]
    rfl
  have hchunk : a.emit.2.pass = a.pass := rfl
  rw [emit_state hs, hpass, hchunk, h.size_eq, h.passes_eq]
  by_cases hstop : a.emit.2.stop = total
  · rw [if_pos hstop]
    simp only [hstop, true_and]
    by_cases hshort : a.emit.2.length < size
    · by_cases hlast : passes ≤ a.pass + 1
      · simp only [hshort, hlast, and_true, if_true, true_iff]
        omega
      · simp only [hshort, hlast, if_false, and_true, reduceCtorEq, false_iff]
        omega
    · simp [hshort]
  · rw [if_neg hstop, if_neg (fun hlast => absurd hlast.1 (by omega))]
    simp [hstop]

/-! ## All states of a run -/

/-- A call that gets no chunk leaves the number of chunks as it was. -/
theorem At.emitted_eq_of_none (h : At total size passes c n) {x : Call}
    (hr : (c.call x).2.bind Next.chunk? = none) : (c.call x).1.emitted = c.emitted := by
  rcases h.call x with ⟨-, hat⟩ | ⟨hsome, -⟩
  · rw [hat.emitted_eq, h.emitted_eq]
  · rw [hsome] at hr
    cases hr

/-- A call that hands out a chunk leaves a controller that streams or drains. -/
theorem At.next_chunk (h : At total size passes c n) (hc : c.Sound) {w : Waits} {clock : Clock}
    {ch : Chunk} (hr : (c.next w clock).2.2 = .chunk ch) :
    (c.next w clock).1.Active ∧
      ((c.next w clock).1.state = .draining ↔
        ch.pass + 1 = passes ∧ ch.stop = total ∧ ch.length < size) := by
  have hm := c.next_move w clock
  rw [hr] at hm
  generalize (c.next w clock).1 = c' at hm
  generalize hanswer : Next.chunk ch = r at hm
  cases hm with
  | done hs => cases hanswer
  | faulted hs =>
    split at hanswer
    · cases hanswer
    · cases hanswer
  | empty d hs h0 => cases hanswer
  | exhausted ha hp => cases hanswer
  | interrupted a f hrd => cases hanswer
  | expired a hrd hd => cases hanswer
  | handed a hrd =>
    cases hanswer
    obtain ⟨hat, hn⟩ := h.ready hrd
    exact ⟨emit_active hrd.active, hat.emit_draining_iff (hrd.streaming hc).1 hn⟩

/-- **Whatever calls are made, the state of a controller tells where it stands.** A controller that
has ended is changed by no call. It becomes faulted only by a failure that a streaming or draining
controller takes, and that failure stays on record and answers every later request. Behind a chunk
it streams or drains, so that a failure is taken then; it drains exactly behind a last chunk that is
shorter than the others. It stands inside the sequence or at its beginning with all passes over, and
has counted the chunks that it handed out. -/
theorem run_keeps_states (t : Int64) (p : Params) (ht : 0 ≤ t) (hs : 1 ≤ p.chunkSize) :
    let total := t.toInt.toNat
    let passes := max p.passes.toInt.toNat 1
    ∃ c₀, make t p = .ok c₀ ∧ ∀ calls : List Call,
      let c := (c₀.serve calls).1
      (c.state = .done ∨ c.state = .faulted →
        ∀ x, (c.call x).1 = c ∧ (c.call x).2.bind Next.chunk? = none) ∧
      ((c.fault.isSome = true ↔ c.state = .faulted) ∧
        (∀ f, (c.fail f).2 = true ↔ c.state ≠ .faulted ∧ (c.fail f).1.state = .faulted) ∧
        ∀ x, c.state ≠ .faulted → (c.call x).1.state = .faulted →
          ∃ f, Faults c x f ∧ ∀ later,
            ((c.call x).1.serve later).1.fault = some f ∧
              ∀ w clock, (((c.call x).1.serve later).1.next w clock).2.2 = .failed f) ∧
      (∀ w clock ch, (c.next w clock).2.2 = .chunk ch →
        let c' := (c.next w clock).1
        (c'.state = .streaming ∨ c'.state = .draining) ∧ (∀ f, (c'.fail f).2 = true) ∧
          (c'.state = .draining ↔
            ch.pass + 1 = passes ∧ ch.stop = total ∧ ch.length < p.chunkSize.toInt.toNat)) ∧
      (0 < total → (c.offset < total ∧ c.pass < passes) ∨ (c.offset = 0 ∧ c.pass = passes)) ∧
      c.emitted = (c₀.handed calls).length ∧
      ∀ x, (c.call x).2.bind Next.chunk? = none → (c.call x).1.emitted = c.emitted := by
  intro total passes
  obtain ⟨c₀, hc₀⟩ := make_isOk ht hs
  refine ⟨c₀, hc₀, fun calls => ?_⟩
  intro c
  have hat := ((make_at hc₀).serve calls).2
  rw [Nat.zero_add] at hat
  have hsound : c.Sound := (sound_make hc₀).serve calls
  refine ⟨fun hended x => Ended.call hended x,
    ⟨hsound.fault_iff, fail_taken_iff c, fun x hne hfaulted => ?_⟩, fun w clock ch hr => ?_,
    hat.in_range, hat.emitted_eq, fun x hr => hat.emitted_eq_of_none hr⟩
  · obtain ⟨f, hf⟩ := exists_faults hne hfaulted
    exact ⟨f, hf, hf.stays⟩
  · obtain ⟨hactive, hdrain⟩ := hat.next_chunk hsound hr
    exact ⟨hactive, fun f => by rw [fail_active hactive], hdrain⟩

/-- Five events in chunks of two: behind the third chunk the controller drains, and takes a failure
there, with which it answers from then on. -/
theorem run_keeps_states_five_by_two :
    ∃ c₀, make 5 { chunkSize := 2 } = .ok c₀ ∧
      let c := (c₀.serve (requests [⟨0, 1⟩, ⟨1, 1⟩, ⟨2, 1⟩])).1
      c.state = .draining ∧ (c.fail .withheld).2 = true ∧ c.emitted = 3 ∧
        ∀ later, ((c.call (.fail .withheld)).1.serve later).1.fault = some .withheld := by
  obtain ⟨c₀, hc₀, hall⟩ := run_keeps_states 5 { chunkSize := 2 } (by decide) (by decide)
  have hsome := hc₀
  cases hc₀
  refine ⟨_, hsome, ?_⟩
  intro c
  obtain ⟨-, -, hchunk, -⟩ := hall (requests [⟨0, 1⟩, ⟨1, 1⟩])
  obtain ⟨-, hfault, -, -, hemitted, -⟩ := hall (requests [⟨0, 1⟩, ⟨1, 1⟩, ⟨2, 1⟩])
  obtain ⟨-, htaken, hdrain⟩ := hchunk {} ⟨2, 1⟩ ⟨2, 0, 4, 1⟩ (by rfl)
  have hdraining : c.state = .draining := hdrain.mpr (by decide)
  obtain ⟨f, hf, hstays⟩ := hfault.2.2 (.fail .withheld) (by rw [hdraining]; decide) (by rfl)
  cases hf
  exact ⟨hdraining, htaken _, hemitted.trans (by decide), fun later => (hstays later).1⟩

end DetectorStream.Flow.Controller
