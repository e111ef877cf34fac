import DetectorStream.Proofs.Flow.Position

/-!
# What a controller hands out

A controller is used by two calls in any order: `next`, under whatever the waits before the chunk
come to and whatever the clock shows, and `fail`.

* `serve`, `handed`: the answers to a list of calls, and the chunks among them.
* **`At.serve`**: any list of calls hands out the plan from the position of the controller on.
* `InTime`, **`At.serve_plan`**: requests that nothing interrupts get the whole plan.
* **`handed_follows_plan`**: what any run hands out, and when it is everything.
-/

namespace DetectorStream.Flow.Controller

open Chunk (perPass numbered ofPlan ofPass)

variable {c a : Controller} {total size passes n : Nat}

/-! ## Calls -/

/-- A call that a controller gets: a request for a chunk, with how the waits before it end and the
clock as it stands then, or the notice of a failure. -/
inductive Call
  | next (w : Waits) (clock : Clock)
  | fail (f : Fault)

/-- The controller after a call, with the answer if there is one. -/
def call (c : Controller) : Call → Controller × Option Next
  | .next w clock => ((c.next w clock).1, some (c.next w clock).2.2)
  | .fail f => ((c.fail f).1, none)

/-- The controller after a list of calls, and all its answers. -/
def serve (c : Controller) : List Call → Controller × List Next
  | [] => (c, [])
  | x :: xs =>
    let (c', r) := c.call x
    let (c'', rs) := serve c' xs
    (c'', r.toList ++ rs)

/-- The chunks that a controller hands out in the course of some calls. -/
def handed (c : Controller) (calls : List Call) : List Chunk :=
  (c.serve calls).2.filterMap Next.chunk?

theorem handed_cons (c : Controller) (x : Call) (xs : List Call) :
    c.handed (x :: xs) = ((c.call x).2.bind Next.chunk?).toList ++ (c.call x).1.handed xs := by
  unfold handed
  simp only [serve, List.filterMap_append]
  cases (c.call x).2 with
  | none => rfl
  | some r => cases hr : r.chunk? <;> simp [hr]

theorem At.call (h : At total size passes c n) (x : Call) :
    ((c.call x).2.bind Next.chunk? = none ∧ At total size passes (c.call x).1 n) ∨
      ((c.call x).2.bind Next.chunk? = some (numbered total size n) ∧
        At total size passes (c.call x).1 (n + 1)) := by
  cases x with
  | fail f => exact Or.inl ⟨rfl, h.fail f⟩
  | next w clock =>
    rcases h.move (c.next_move w clock) with ⟨hr, h'⟩ | ⟨hr, h'⟩
    · exact Or.inl ⟨hr, h'⟩
    · refine Or.inr ⟨?_, h'⟩
      show (c.next w clock).2.2.chunk? = _
      rw [hr]
      rfl

/-- **A run hands out the plan from its position on**, and stands after the last chunk it handed
out. -/
theorem At.serve (h : At total size passes c n) (calls : List Call) :
    c.handed calls =
        (List.range (c.handed calls).length).map (fun i => numbered total size (n + i)) ∧
      At total size passes (c.serve calls).1 (n + (c.handed calls).length) := by
  induction calls generalizing c n with
  | nil => exact ⟨rfl, h⟩
  | cons x xs ih =>
    have hserve : (c.serve (x :: xs)).1 = ((c.call x).1.serve xs).1 := rfl
    rw [hserve, handed_cons]
    rcases h.call x with ⟨hr, h'⟩ | ⟨hr, h'⟩
    · rw [hr]
      exact ih h'
    · rw [hr]
      obtain ⟨ih₁, ih₂⟩ := ih h'
      simp only [Option.toList_some, List.singleton_append, List.length_cons]
      constructor
      · rw [List.range_succ_eq_map, List.map_cons, List.map_map]
        nth_rewrite 1 [ih₁]
        refine congrArg _ (List.map_congr_left fun i _ => ?_)
        show numbered total size (n + 1 + i) = numbered total size (n + (i + 1))
        congr 1
        omega
      · rwa [Nat.add_assoc, Nat.add_comm 1] at ih₂

theorem At.handed_eq_take (h : At total size passes c 0) (calls : List Call) :
    c.handed calls = (ofPlan total size passes).take (c.handed calls).length := by
  obtain ⟨hlist, hat⟩ := h.serve calls
  rw [Nat.zero_add] at hat
  rw [Chunk.take_ofPlan hat.le_plan]
  simpa using hlist

/-! ## Runs without interruption -/

/-- With one call of `next` at each of these clocks the budget does not run out: the first call
fixes the deadline with its first reading and checks it with its second, later calls check it with
their only one. -/
def InTime (budget : Duration) : List Clock → Prop
  | [] => True
  | k :: ks =>
    0 < budget →
      k.read.2.read.1 < k.read.1 + budget.toInt ∧ ∀ k' ∈ ks, k'.read.1 < k.read.1 + budget.toInt

/-- A request for a chunk at each of the clocks, before which no wait fails. -/
def requests (ks : List Clock) : List Call := ks.map (Call.next {})

theorem afterPacing_in_time {clock : Clock} (hd : ∀ d ∈ a.deadline, clock.read.1 < d) :
    (a.afterPacing none clock).1 = a.emit.1 ∧
      (a.afterPacing none clock).2.2 = .chunk a.emit.2 := by
  unfold afterPacing
  cases h : a.deadline with
  | none => exact ⟨rfl, rfl⟩
  | some d =>
    have hlt : ¬ d ≤ clock.read.1 := by
      have := hd d h
      omega
    constructor <;> simp only [if_neg hlt]

/-- An active controller that is not at the end of its plan goes on streaming. -/
theorem At.next_active_in_time (h : At total size passes c n) (ha : c.Active)
    (hn : n < passes * perPass total size) {clock : Clock}
    (hd : ∀ d ∈ c.deadline, clock.read.1 < d) :
    (c.next {} clock).1 = c.emit.1 ∧ (c.next {} clock).2.2 = .chunk (numbered total size n) := by
  have hm : 0 < perPass total size := Chunk.perPass_pos h.size_pos (h.nonempty ha)
  have hp : ¬ c.passes ≤ c.pass := by
    rw [h.passes_eq, h.pass_eq, Nat.not_le]
    exact (Nat.div_lt_iff_lt_mul hm).mpr hn
  rw [next_active ha, if_neg hp, ← (h.emit ha hn).1]
  exact afterPacing_in_time hd

/-- An active controller at the end of its plan is done. -/
theorem At.next_active_at_end (h : At total size passes c (passes * perPass total size))
    (ha : c.Active) (w : Waits) (clock : Clock) :
    c.next w clock = ({ c with state := .done }, clock, .finished) := by
  have hm : 0 < perPass total size := Chunk.perPass_pos h.size_pos (h.nonempty ha)
  have hp : c.passes ≤ c.pass := by
    rw [h.passes_eq, h.pass_eq, Nat.mul_div_cancel _ hm]
  rw [next_active ha, if_pos hp]

theorem serve_append (c : Controller) (xs ys : List Call) :
    c.serve (xs ++ ys) =
      (((c.serve xs).1.serve ys).1, (c.serve xs).2 ++ ((c.serve xs).1.serve ys).2) := by
  induction xs generalizing c with
  | nil => rfl
  | cons x xs ih =>
    simp only [List.cons_append, serve, ih, List.append_assoc]

theorem serve_requests_cons (c : Controller) (k : Clock) (ks : List Clock) :
    c.serve (requests (k :: ks)) =
      (((c.next {} k).1.serve (requests ks)).1,
        (c.next {} k).2.2 :: ((c.next {} k).1.serve (requests ks)).2) := rfl

theorem serve_done (h : c.state = .done) (ks : List Clock) :
    c.serve (requests ks) = (c, List.replicate ks.length .finished) := by
  induction ks with
  | nil => rfl
  | cons k ks ih => rw [serve_requests_cons, next_done h, ih]; rfl

/-- As long as the plan goes on, an active controller answers every request with a chunk. -/
theorem At.serve_active (h : At total size passes c n) (ha : c.Active) (ks : List Clock)
    (hn : n + ks.length ≤ passes * perPass total size)
    (hd : ∀ k ∈ ks, ∀ d ∈ c.deadline, k.read.1 < d) :
    (c.serve (requests ks)).2 =
        (List.range ks.length).map (fun i => .chunk (numbered total size (n + i))) ∧
      At total size passes (c.serve (requests ks)).1 (n + ks.length) ∧
      (c.serve (requests ks)).1.Active := by
  induction ks generalizing c n with
  | nil => exact ⟨rfl, h, ha⟩
  | cons k ks ih =>
    rw [List.length_cons] at hn
    have hn' : n < passes * perPass total size := by omega
    obtain ⟨hc, hr⟩ := h.next_active_in_time ha hn' (hd k List.mem_cons_self)
    have hnext := (h.emit ha hn').2
    obtain ⟨hlist, hat, hact⟩ := ih hnext (emit_active ha) (by omega)
      fun k' hk' => hd k' (List.mem_cons_of_mem k hk')
    rw [serve_requests_cons, hc, hr, hlist, List.length_cons]
    refine ⟨?_, by rwa [Nat.add_assoc, Nat.add_comm 1] at hat, hact⟩
    rw [List.range_succ_eq_map, List.map_cons, List.map_map]
    refine congrArg _ (List.map_congr_left fun i _ => ?_)
    show Next.chunk (numbered total size (n + 1 + i)) =
      Next.chunk (numbered total size (n + (i + 1)))
    congr 2
    omega

/-- The first request to a fresh controller. -/
theorem At.next_idle_in_time (h : At total size passes c 0) (hi : c.state = .idle)
    (ht : 0 < total) {k : Clock} {ks : List Clock} (hin : InTime c.budget (k :: ks))
    (hdl : c.deadline = none) :
    (c.next {} k).2.2 = .chunk (numbered total size 0) ∧
      At total size passes (c.next {} k).1 1 ∧ (c.next {} k).1.Active ∧
      ∀ k' ∈ ks, ∀ d ∈ (c.next {} k).1.deadline, k'.read.1 < d := by
  have hready : Ready c (c.begun k).1 := Or.inl ⟨hi, by rw [h.total_eq]; exact ht, k, rfl⟩
  obtain ⟨hat, hn⟩ := h.ready hready
  have hdead : (c.begun k).1.deadline =
      if 0 < c.budget then some (k.read.1 + c.budget.toInt) else none := by
    unfold begun
    split
    · rfl
    · exact hdl
  have hfirst : ∀ d ∈ (c.begun k).1.deadline, (c.begun k).2.read.1 < d := by
    intro d hd
    rw [hdead] at hd
    split at hd
    · rename_i hb
      cases hd
      unfold begun
      rw [if_pos hb]
      exact (hin hb).1
    · cases hd
  obtain ⟨hemit, hat'⟩ := hat.emit hready.active hn
  have hnext : (c.next {} k).1 = (c.begun k).1.emit.1 ∧
      (c.next {} k).2.2 = .chunk (c.begun k).1.emit.2 := by
    rw [next_idle hi, if_neg (by rw [h.total_eq]; omega)]
    exact afterPacing_in_time hfirst
  rw [hnext.1, hnext.2, hemit]
  refine ⟨rfl, hat', emit_active hready.active, fun k' hk' d hd => ?_⟩
  have hd' : d ∈ (c.begun k).1.deadline := hd
  rw [hdead] at hd'
  split at hd'
  · rename_i hb
    cases hd'
    exact (hin hb).2 k' hk'
  · cases hd'

theorem next_idle_empty (hi : c.state = .idle) (h0 : c.total = 0) (w : Waits) (clock : Clock) :
    (c.next w clock).1.state = .done ∧ (c.next w clock).2.2 = .finished := by
  rw [next_idle hi, if_pos h0]
  exact ⟨rfl, rfl⟩

/-- At the end of the plan the first request finds nothing left, and so do all after it. -/
theorem serve_finished {ks : List Clock} (hne : ks ≠ [])
    (h : ∀ k, (c.next {} k).1.state = .done ∧ (c.next {} k).2.2 = .finished) :
    (c.serve (requests ks)).2 = List.replicate ks.length .finished ∧
      (c.serve (requests ks)).1.state = .done := by
  cases ks with
  | nil => exact absurd rfl hne
  | cons k ks =>
    rw [serve_requests_cons, (h k).2, serve_done (h k).1]
    exact ⟨rfl, (h k).1⟩

/-- **The whole plan is handed out when nothing interrupts it.** -/
theorem At.serve_plan (h : At total size passes c 0) (hi : c.state = .idle)
    (hdl : c.deadline = none) {ks : List Clock} (hlen : ks.length = passes * perPass total size)
    (hin : InTime c.budget ks) :
    (c.serve (requests ks)).2 = (ofPlan total size passes).map Next.chunk ∧
      ∀ k, ((c.serve (requests ks)).1.next {} k).1.state = .done ∧
        ((c.serve (requests ks)).1.next {} k).2.2 = .finished := by
  rw [Chunk.ofPlan_eq_map_numbered, ← hlen, List.map_map]
  cases ks with
  | nil =>
    have h0 : c.total = 0 := by
      by_contra h0
      have ht : 0 < total := by rw [← h.total_eq]; omega
      have := Nat.mul_pos h.passes_pos (Chunk.perPass_pos h.size_pos ht)
      simp only [List.length_nil] at hlen
      omega
    exact ⟨rfl, fun k => next_idle_empty hi h0 {} k⟩
  | cons k ks =>
    have ht : 0 < total := by
      by_contra h0
      rw [Nat.eq_zero_of_not_pos h0, Chunk.perPass_zero h.size_pos] at hlen
      simp at hlen
    obtain ⟨hr, hat, hact, hd⟩ := h.next_idle_in_time hi ht hin hdl
    rw [List.length_cons] at hlen
    obtain ⟨hlist, hend, hact'⟩ := hat.serve_active hact ks (by omega) hd
    rw [Nat.add_comm, hlen] at hend
    rw [serve_requests_cons, hr, hlist]
    constructor
    · rw [List.length_cons, List.range_succ_eq_map, List.map_cons, List.map_map]
      refine congrArg _ (List.map_congr_left fun i _ => ?_)
      show Next.chunk (numbered total size (1 + i)) = Next.chunk (numbered total size (i + 1))
      rw [Nat.add_comm]
    · intro k'
      rw [hend.next_active_at_end hact']
      exact ⟨rfl, rfl⟩

/-! ## The plan is followed -/

/-- The chunks of a pass whose last chunk has been handed out cover the sequence once and in
order. -/
theorem At.covers (h : At total size passes c 0) (calls : List Call) {ch : Chunk}
    (hmem : ch ∈ c.handed calls) (hstop : ch.stop = total) :
    ((c.handed calls).filter fun x => x.pass = ch.pass).flatMap Chunk.slots =
      List.range total := by
  obtain ⟨hlist, hat⟩ := h.serve calls
  rw [Nat.zero_add] at hat
  rw [hlist] at hmem
  obtain ⟨i, hi, rfl⟩ := List.mem_map.mp hmem
  rw [List.mem_range] at hi
  simp only [Nat.zero_add] at hstop ⊢
  have hm : 0 < perPass total size :=
    Nat.pos_of_mul_pos_left (Nat.lt_of_lt_of_le (Nat.zero_lt_of_lt hi) hat.le_plan)
  have hlast := Chunk.succ_eq_of_stop_eq h.size_pos (Nat.mod_lt i hm) hstop
  have hwhole : (i / perPass total size + 1) * perPass total size ≤ (c.handed calls).length := by
    have := Nat.div_add_mod i (perPass total size)
    rw [Nat.succ_mul, Nat.mul_comm]
    omega
  rw [h.handed_eq_take calls]
  show (List.filter (fun x => x.pass = i / perPass total size) _).flatMap Chunk.slots = _
  rw [Chunk.filter_pass_take_ofPlan hm hat.le_plan hwhole]
  exact Chunk.flatMap_slots_ofPass h.size_pos _

/-- **Whatever happens, the chunks handed out are the first chunks of the plan**, so each is a
non-empty range of the sequence, and the chunks of a pass that was handed out to its end cover the
sequence once and in order. When no wait fails, no failure is recorded and the budget of time does
not run out, requests are answered by the whole plan, and then the controller is done. -/
theorem handed_follows_plan (t : Int64) (p : Params) (ht : 0 ≤ t) (hs : 1 ≤ p.chunkSize) :
    let total := t.toInt.toNat
    let plan := ofPlan total p.chunkSize.toInt.toNat (max p.passes.toInt.toNat 1)
    ∃ c, make t p = .ok c ∧
      (∀ calls : List Call,
        c.handed calls <+: plan ∧
        (∀ ch ∈ c.handed calls, 1 ≤ ch.length ∧ ch.offset + ch.length ≤ total) ∧
        (∀ ch ∈ c.handed calls, ch.offset + ch.length = total →
          ((c.handed calls).filter fun x => x.pass = ch.pass).flatMap Chunk.slots =
            List.range total)) ∧
      ∀ ks : List Clock, plan.length < ks.length → InTime p.budget (ks.take plan.length) →
        (c.serve (requests ks)).2 =
            plan.map Next.chunk ++ List.replicate (ks.length - plan.length) .finished ∧
          (c.serve (requests ks)).1.state = .done := by
  intro total plan
  obtain ⟨c, hc⟩ := make_isOk ht hs
  have hat := make_at hc
  refine ⟨c, hc, fun calls => ?_, fun ks hlen hin => ?_⟩
  · have hpre : c.handed calls <+: plan := by
      rw [hat.handed_eq_take calls]
      exact List.take_prefix _ _
    refine ⟨hpre, fun ch hch => ?_, fun ch hch => hat.covers calls hch⟩
    have hmem : ch ∈ plan := hpre.subset hch
    exact ⟨Chunk.length_pos_of_mem_ofPlan hat.size_pos hmem,
      Chunk.stop_le_of_mem_ofPlan hat.size_pos hmem⟩
  · obtain ⟨-, rfl⟩ := make_eq_ok hc
    have htake : (ks.take plan.length).length = plan.length := List.length_take_of_le hlen.le
    obtain ⟨hplan, hend⟩ :=
      hat.serve_plan rfl rfl (htake.trans (Chunk.length_ofPlan _ _ _)) hin
    have hrest : ks.drop plan.length ≠ [] := by
      rw [ne_eq, List.drop_eq_nil_iff]
      omega
    obtain ⟨hfin, hdone⟩ := serve_finished hrest hend
    have hsplit : requests ks =
        requests (ks.take plan.length) ++ requests (ks.drop plan.length) := by
      unfold requests
      rw [← List.map_append, List.take_append_drop]
    rw [hsplit, serve_append, hplan, hfin, List.length_drop]
    exact ⟨rfl, hdone⟩

/-- Five events in chunks of two, over two passes: a failure after the first chunk, and a run within
its budget of time. -/
theorem handed_follows_plan_five_by_two :
    ∃ c, make 5 { chunkSize := 2, passes := 2, budget := 10 } = .ok c ∧
      c.handed [.next {} ⟨0, 1⟩, .fail .withheld, .next {} ⟨1, 1⟩] <+: ofPlan 5 2 2 ∧
      (c.serve (requests (List.replicate 7 ⟨0, 1⟩))).2 =
        (ofPlan 5 2 2).map Next.chunk ++ [.finished] := by
  obtain ⟨c, hc, hrun, hwhole⟩ :=
    handed_follows_plan 5 { chunkSize := 2, passes := 2, budget := 10 } (by decide) (by decide)
  have hin : InTime 10 (List.replicate 6 ⟨0, 1⟩) := by
    intro _
    decide
  exact ⟨c, hc, (hrun _).1, (hwhole (List.replicate 7 ⟨0, 1⟩) (by decide) hin).1⟩

end DetectorStream.Flow.Controller
