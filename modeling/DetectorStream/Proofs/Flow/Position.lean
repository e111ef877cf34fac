import DetectorStream.Flow.Controller
import DetectorStream.Proofs.Flow.Plan

/-!
# The position of a controller

A controller keeps its place in the event sequence in four fields (`emitted`, `pass`, `offset`,
`state`), which `next` moves together. The invariant `At` ties them to one number: a controller
`At … n` has handed out the first `n` chunks of the plan.

* **`Move`**, `next_move`: everything a call of `next` can do, whatever the waits before the chunk
  come to and whatever the clock shows.
* `make_at`: a new controller stands at the beginning.
* **`At.move`**: a call of `next` keeps the position or takes the next chunk of the plan. `At.fail`
  is the same for a failure.
* `Move.of_live`, `At.eq_end`: how a call leaves a controller that had not ended, and when it finds
  the plan handed out.
-/

namespace DetectorStream.Flow

/-- The chunk in an answer of `next`. -/
def Next.chunk? : Next → Option Chunk
  | .chunk c => some c
  | .finished => none
  | .failed _ => none

namespace Controller

open Chunk (perPass numbered ofPlan ofPass)

variable {c a : Controller}

/-! ## One call of `next` -/

/-- The controller has begun and not ended. -/
def Active (c : Controller) : Prop := c.state = .streaming ∨ c.state = .draining

/-- The controller as it begins to stream: the clock is read once to fix the deadline, if there is a
budget of time. -/
def begun (c : Controller) (clock : Clock) : Controller × Clock :=
  if 0 < c.budget then
    ({ c with state := .streaming, deadline := some (clock.read.1 + c.budget.toInt) },
      clock.read.2)
  else ({ c with state := .streaming }, clock)

/-- `a` is `c` about to hand out a chunk: an idle controller that has just begun, or one that has
passes left. -/
def Ready (c a : Controller) : Prop :=
  (c.state = .idle ∧ 0 < c.total ∧ ∃ clock, a = (c.begun clock).1) ∨
    (c.Active ∧ c.pass < c.passes ∧ a = c)

/-- **Everything a call of `next` can do.** -/
inductive Move (c : Controller) : Controller → Next → Prop
  | done (h : c.state = .done) : Move c c .finished
  | faulted (h : c.state = .faulted) :
      Move c c (match c.fault with | some f => .failed f | none => .finished)
  | empty (d : Option Int) (h : c.state = .idle) (h0 : c.total = 0) :
      Move c { c with state := .done, deadline := d } .finished
  | exhausted (h : c.Active) (hp : c.passes ≤ c.pass) :
      Move c { c with state := .done } .finished
  | interrupted (a : Controller) (f : Fault) (h : Ready c a) :
      Move c { a with state := .faulted, fault := some f } (.failed f)
  | expired (a : Controller) (h : Ready c a) (hd : a.deadline.isSome) :
      Move c { a with state := .done } .finished
  | handed (a : Controller) (h : Ready c a) : Move c a.emit.1 (.chunk a.emit.2)

theorem begun_fst (c : Controller) (clock : Clock) :
    ∃ d, (c.begun clock).1 = { c with state := .streaming, deadline := d } := by
  unfold begun
  split
  · exact ⟨_, rfl⟩
  · exact ⟨_, rfl⟩

theorem next_idle (h : c.state = .idle) (w : Waits) (clock : Clock) :
    c.next w clock =
      if c.total = 0 then
        ({ (c.begun clock).1 with state := .done }, (c.begun clock).2, .finished)
      else (c.begun clock).1.afterPacing w.limiter (c.begun clock).2 := by
  unfold next begun
  rw [h]
  by_cases hb : 0 < c.budget
  · simp only [if_pos hb]
  · simp only [if_neg hb]

theorem next_active (h : c.Active) (w : Waits) (clock : Clock) :
    c.next w clock =
      if c.passes ≤ c.pass then ({ c with state := .done }, clock, .finished)
      else
        match w.pacing with
        | some f => ((c.fail f).1, clock, .failed f)
        | none => c.afterPacing w.limiter clock := by
  unfold next
  rcases h with h | h
  · rewrite [h]
    rfl
  · rewrite [h]
    rfl

theorem next_done (h : c.state = .done) (w : Waits) (clock : Clock) :
    c.next w clock = (c, clock, .finished) := by
  unfold next
  rw [h]

theorem fail_active (h : c.Active) (f : Fault) :
    c.fail f = ({ c with state := .faulted, fault := some f }, true) := by
  unfold fail
  rcases h with h | h <;> rw [h]

theorem Ready.active (h : Ready c a) : a.Active := by
  rcases h with ⟨-, -, clock, rfl⟩ | ⟨h, -, rfl⟩
  · obtain ⟨d, hd⟩ := c.begun_fst clock
    rw [hd]
    exact Or.inl rfl
  · exact h

theorem afterPacing_move (h : Ready c a) (limiter : Option Fault) (clock : Clock) :
    Move c (a.afterPacing limiter clock).1 (a.afterPacing limiter clock).2.2 := by
  unfold afterPacing
  cases limiter with
  | some f =>
    simp only [fail_active h.active]
    exact .interrupted a _ h
  | none =>
    simp only
    split
    · exact .handed a h
    · rename_i d hd
      split
      · exact .expired a h (by rw [hd]; rfl)
      · exact .handed a h

theorem next_move (c : Controller) (w : Waits) (clock : Clock) :
    Move c (c.next w clock).1 (c.next w clock).2.2 := by
  cases hs : c.state with
  | idle =>
    rw [next_idle hs]
    split
    · rename_i h0
      obtain ⟨d, hd⟩ := c.begun_fst clock
      rw [hd]
      exact .empty d hs h0
    · rename_i h0
      exact afterPacing_move (Or.inl ⟨hs, Nat.pos_of_ne_zero h0, clock, rfl⟩) _ _
  | streaming | draining =>
    have ha : c.Active := by unfold Active; rw [hs]; simp
    rw [next_active ha]
    split
    · rename_i hp
      exact .exhausted ha hp
    · rename_i hp
      have hr : Ready c c := Or.inr ⟨ha, Nat.lt_of_not_le hp, rfl⟩
      cases w.pacing with
      | some f =>
        simp only [fail_active ha]
        exact .interrupted c f hr
      | none => exact afterPacing_move hr _ _
  | done =>
    rw [next_done hs]
    exact .done hs
  | faulted =>
    unfold next
    rw [hs]
    exact .faulted hs

/-! ## The position in the plan -/

/-- The controller has handed out the first `n` chunks of the plan for `total` events in chunks of
`size`, over `passes` passes. -/
structure At (total size passes : Nat) (c : Controller) (n : Nat) : Prop where
  total_eq : c.total = total
  size_eq : c.chunkSize = size
  passes_eq : c.passes = passes
  size_pos : 0 < size
  passes_pos : 0 < passes
  emitted_eq : c.emitted = n
  pass_eq : c.pass = n / perPass total size
  offset_eq : c.offset = n % perPass total size * size
  le_plan : n ≤ passes * perPass total size
  idle : c.state = .idle → n = 0
  nonempty : c.Active → 0 < total

variable {total size passes n : Nat}

theorem make_eq_ok {t : Int64} {p : Params} (h : make t p = .ok c) :
    1 ≤ p.chunkSize.toInt ∧
      c = { total := t.toInt.toNat, chunkSize := p.chunkSize.toInt.toNat,
            passes := max p.passes.toInt.toNat 1, delay := p.delay, rate := p.rate,
            budget := p.budget } := by
  unfold make at h
  split at h
  · cases h
  · split at h
    · cases h
    · rename_i hs
      exact ⟨Int64.le_iff_toInt_le.mp (Int64.not_lt.mp hs), (Except.ok.inj h).symm⟩

theorem make_at {t : Int64} {p : Params} (h : make t p = .ok c) :
    At t.toInt.toNat p.chunkSize.toInt.toNat (max p.passes.toInt.toNat 1) c 0 := by
  obtain ⟨hs, rfl⟩ := make_eq_ok h
  exact ⟨rfl, rfl, rfl, by omega, by omega, rfl, by simp, by simp, Nat.zero_le _, fun _ => rfl,
    by rintro (h | h) <;> cases h⟩

theorem make_isOk {t : Int64} {p : Params} (ht : 0 ≤ t) (hs : 1 ≤ p.chunkSize) :
    ∃ c, make t p = .ok c := by
  unfold make
  rw [if_neg (Int64.not_lt.mpr ht), if_neg (Int64.not_lt.mpr hs)]
  exact ⟨_, rfl⟩

/-- Ending the stream, in whatever way, keeps the position. -/
theorem At.settle (h : At total size passes c n) {s : State} {f : Option Fault} {d : Option Int}
    (hs : s = .done ∨ s = .faulted) :
    At total size passes { c with state := s, fault := f, deadline := d } n := by
  refine ⟨h.total_eq, h.size_eq, h.passes_eq, h.size_pos, h.passes_pos, h.emitted_eq, h.pass_eq,
    h.offset_eq, h.le_plan, ?_, ?_⟩
  · intro hi
    rcases hs with rfl | rfl <;> cases hi
  · rintro (ha | ha) <;> rcases hs with rfl | rfl <;> cases ha

/-- A controller that is about to hand out a chunk stands where the one before it stood, and the
plan goes on there. -/
theorem At.ready (h : At total size passes c n) (hr : Ready c a) :
    At total size passes a n ∧ n < passes * perPass total size := by
  rcases hr with ⟨hi, ht, clock, rfl⟩ | ⟨ha, hp, rfl⟩
  · have hn := h.idle hi
    rw [h.total_eq] at ht
    obtain ⟨d, hd⟩ := c.begun_fst clock
    rw [hd]
    refine ⟨⟨h.total_eq, h.size_eq, h.passes_eq, h.size_pos, h.passes_pos, h.emitted_eq,
      h.pass_eq, h.offset_eq, h.le_plan, fun _ => hn, fun _ => ht⟩, ?_⟩
    rw [hn]
    exact Nat.mul_pos h.passes_pos (Chunk.perPass_pos h.size_pos ht)
  · refine ⟨h, ?_⟩
    have hm := Chunk.perPass_pos h.size_pos (h.nonempty ha)
    rw [h.pass_eq, h.passes_eq] at hp
    exact (Nat.div_lt_iff_lt_mul hm).mp hp

theorem emit_active (ha : a.Active) : a.emit.1.Active := by
  have hstate : a.emit.1.state = .draining ∨ a.emit.1.state = a.state := ite_eq_or_eq _ _ _
  rcases hstate with h | h
  · exact Or.inr h
  · unfold Active
    rw [h]
    exact ha

/-- **Handing out a chunk moves the position by one**, and the chunk is the one the plan has
there. -/
theorem At.emit (h : At total size passes a n) (ha : a.Active)
    (hn : n < passes * perPass total size) :
    a.emit.2 = numbered total size n ∧ At total size passes a.emit.1 (n + 1) := by
  have hm : 0 < perPass total size := Chunk.perPass_pos h.size_pos (h.nonempty ha)
  have hj : n % perPass total size < perPass total size := Nat.mod_lt n hm
  have hchunk : a.emit.2 = numbered total size n := by
    have hseq := Chunk.numbered_seq total size n
    unfold numbered at hseq ⊢
    simp only [Chunk.nth] at hseq
    simp only [Controller.emit, Chunk.nth, Chunk.mk.injEq]
    rw [h.emitted_eq, h.pass_eq, h.offset_eq, h.total_eq, h.size_eq]
    exact ⟨hseq.symm, rfl, rfl, rfl⟩
  refine ⟨hchunk, ?_⟩
  -- the last range of a pass wraps around to the next one; any other leads on to its neighbour
  have hpos : a.emit.1.pass = (n + 1) / perPass total size ∧
      a.emit.1.offset = (n + 1) % perPass total size * size := by
    simp only [Controller.emit]
    rw [h.pass_eq, h.offset_eq, h.total_eq, h.size_eq]
    by_cases hlast : n % perPass total size + 1 = perPass total size
    · have hle := Chunk.le_succ_mul_of_eq_perPass h.size_pos hlast
      have hlt := Chunk.mul_lt_of_lt_perPass h.size_pos hj
      obtain ⟨hdiv, hmod⟩ := Chunk.succ_div_mod_of_last hlast
      rw [if_pos (by omega), if_pos (by omega), hdiv, hmod, Nat.zero_mul]
      exact ⟨rfl, rfl⟩
    · have hnext : n % perPass total size + 1 < perPass total size := by omega
      have hlt := Chunk.succ_mul_lt_of_lt_perPass h.size_pos hnext
      obtain ⟨hdiv, hmod⟩ := Chunk.succ_div_mod_of_lt hnext
      rw [if_neg (by omega), if_neg (by omega), hdiv, hmod, Nat.succ_mul]
      exact ⟨rfl, by omega⟩
  refine ⟨h.total_eq, h.size_eq, h.passes_eq, h.size_pos, h.passes_pos, ?_, hpos.1, hpos.2, hn,
    ?_, fun _ => h.nonempty ha⟩
  · show a.emitted + 1 = n + 1
    rw [h.emitted_eq]
  · intro hi
    rcases emit_active ha with he | he <;> rw [he] at hi <;> cases hi

/-- **One call of `next` keeps the position or takes the next chunk of the plan.** -/
theorem At.move {c' : Controller} {r : Next} (h : At total size passes c n) (hm : Move c c' r) :
    (r.chunk? = none ∧ At total size passes c' n) ∨
      (r = .chunk (numbered total size n) ∧ At total size passes c' (n + 1)) := by
  cases hm with
  | done hs => exact Or.inl ⟨rfl, h⟩
  | faulted hs =>
    refine Or.inl ⟨?_, h⟩
    cases c.fault <;> rfl
  | empty d hs h0 => exact Or.inl ⟨rfl, h.settle (Or.inl rfl)⟩
  | exhausted ha hp => exact Or.inl ⟨rfl, h.settle (Or.inl rfl)⟩
  | interrupted a f hr => exact Or.inl ⟨rfl, (h.ready hr).1.settle (Or.inr rfl)⟩
  | expired a hr hd => exact Or.inl ⟨rfl, (h.ready hr).1.settle (Or.inl rfl)⟩
  | handed a hr =>
    obtain ⟨hat, hn⟩ := h.ready hr
    obtain ⟨hc, hat'⟩ := hat.emit hr.active hn
    exact Or.inr ⟨by rw [hc], hat'⟩

theorem At.fail (h : At total size passes c n) (f : Fault) :
    At total size passes (c.fail f).1 n := by
  unfold Controller.fail
  split
  · exact h.settle (Or.inr rfl)
  · exact h.settle (Or.inr rfl)
  · exact h

/-! ## Controllers that have not ended -/

/-- The controller has not ended. -/
def Live (c : Controller) : Prop := c.state = .idle ∨ c.Active

theorem Live.ne_done (h : c.Live) : c.state ≠ .done := by
  rcases h with h | h | h <;> rw [h] <;> decide

theorem Live.ne_faulted (h : c.Live) : c.state ≠ .faulted := by
  rcases h with h | h | h <;> rw [h] <;> decide

/-- A call of `next` before the end hands out a chunk, or finds the stream finished and is done, or
is interrupted and faulted. -/
theorem Move.of_live {c' : Controller} {r : Next} (hm : Move c c' r) (hl : c.Live) :
    (∃ a, Ready c a ∧ c' = a.emit.1 ∧ r = .chunk a.emit.2) ∨
      (r = .finished ∧ c'.state = .done) ∨ ∃ f, r = .failed f ∧ c'.state = .faulted := by
  cases hm with
  | done h => exact absurd h hl.ne_done
  | faulted h => exact absurd h hl.ne_faulted
  | empty d h h0 => exact Or.inr (Or.inl ⟨rfl, rfl⟩)
  | exhausted h hp => exact Or.inr (Or.inl ⟨rfl, rfl⟩)
  | interrupted a f h => exact Or.inr (Or.inr ⟨f, rfl, rfl⟩)
  | expired a h hd => exact Or.inr (Or.inl ⟨rfl, rfl⟩)
  | handed a h => exact Or.inl ⟨a, h, rfl, rfl⟩

theorem Ready.budget_eq (h : Ready c a) : a.budget = c.budget := by
  rcases h with ⟨-, -, clock, rfl⟩ | ⟨-, -, rfl⟩
  · obtain ⟨d, hd⟩ := c.begun_fst clock
    rw [hd]
  · rfl

/-- Without a budget of time there is never a deadline. -/
theorem Ready.deadline_none (h : Ready c a) (hb : ¬ 0 < c.budget) (hd : c.deadline = none) :
    a.deadline = none := by
  rcases h with ⟨-, -, clock, rfl⟩ | ⟨-, -, rfl⟩
  · unfold begun
    rw [if_neg hb]
    exact hd
  · exact hd

/-- Without a budget of time, a controller that finds the stream finished has handed out the whole
plan. -/
theorem At.eq_end {c' : Controller} {r : Next} (h : At total size passes c n) (hl : c.Live)
    (hb : ¬ 0 < c.budget) (hd : c.deadline = none) (hm : Move c c' r) (hr : r = .finished) :
    n = passes * perPass total size := by
  cases hm with
  | done hs => exact absurd hs hl.ne_done
  | faulted hs => exact absurd hs hl.ne_faulted
  | empty d hs h0 =>
    rw [h.total_eq] at h0
    rw [h.idle hs, h0, Chunk.perPass_zero h.size_pos, Nat.mul_zero]
  | exhausted ha hp =>
    have hpos : 0 < perPass total size := Chunk.perPass_pos h.size_pos (h.nonempty ha)
    rw [h.passes_eq, h.pass_eq] at hp
    exact Nat.le_antisymm h.le_plan ((Nat.le_div_iff_mul_le hpos).mp hp)
  | interrupted a f hrd => cases hr
  | expired a hrd hsome =>
    rw [hrd.deadline_none hb hd] at hsome
    cases hsome
  | handed a hrd => cases hr

theorem afterPacing_none_ne_failed (clock : Clock) (f : Fault) :
    (a.afterPacing none clock).2.2 ≠ .failed f := by
  unfold afterPacing
  simp only
  split
  · exact nofun
  · split
    · exact nofun
    · exact nofun

/-- Only a wait that fails interrupts a stream. -/
theorem next_ne_failed (hl : c.Live) (clock : Clock) (f : Fault) :
    (c.next {} clock).2.2 ≠ .failed f := by
  rcases hl with hi | ha
  · rw [next_idle hi]
    split
    · exact nofun
    · exact afterPacing_none_ne_failed _ f
  · rw [next_active ha]
    split
    · exact nofun
    · exact afterPacing_none_ne_failed _ f

/-- In a live context the waits of a controller run out as planned. -/
theorem waits_live (c : Controller) : c.waits .live = {} := by
  unfold waits pacing limiter
  simp [Context.fault?, Context.interrupts]

end Controller

end DetectorStream.Flow
