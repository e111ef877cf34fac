import DetectorStream.Proofs.Flow.Position
import DetectorStream.Run.Basic

/-!
# The course of a run

A run asks its controller for a chunk, sends it, and goes on as long as chunks are delivered. This
file gives that course as a relation: `Delivered u b w k p` says that the run of the batch `b` in
the world `w` has delivered `k` chunks and stands at `p`. From there it can only go on, finish, be
interrupted, or fail at the next chunk, and the last three end it.

* `step_eq`, `delivered_eq`: what sending a chunk changes.
* **`Delivered.at_plan`**: after `k` deliveries the controller stands at chunk `k` of the plan.
* `Ends`, `Delivered.ends_finished`, `Delivered.ends_interrupted`, `Delivered.ends_failed`: how a
  run is reported that ends in one of the three ways.
* **`exists_end`**: every run that begins ends in one of them; `unbegun`: what one leaves behind that
  does not begin.
-/

namespace DetectorStream.Run

open Chunk (perPass numbered)
open DetectorStream.Flow (Controller)

variable {σ : Type} {u : Setup σ} {b : Batch} {w : World σ} {p q : Progress σ} {c : Chunk}

/-! ## What a run is to do -/

/-- The number of events in a full message. -/
def Setup.size (u : Setup σ) : Nat := u.settings.messageSize.toInt.toNat

/-- How often the events are gone through, once at least. -/
def Setup.passes (u : Setup σ) : Nat := max u.settings.flow.passes.toInt.toNat 1

/-- How many messages a run is to send. -/
def Setup.count (u : Setup σ) (b : Batch) : Nat := u.passes * perPass b.size u.size

/-- Chunk number `k` of a run. -/
def Setup.chunk (u : Setup σ) (b : Batch) (k : Nat) : Chunk := numbered b.size u.size k

/-- The message of chunk number `k`. -/
def Setup.messageAt (u : Setup σ) (b : Batch) (k : Nat) : Message :=
  message u.settings.sourceName b (u.chunk b k)

/-- Its number is that of the chunk. -/
theorem messageAt_id (u : Setup σ) (b : Batch) (k : Nat) : (u.messageAt b k).id = k.toUInt64 := by
  show (u.chunk b k).seq.toUInt64 = _
  rw [show (u.chunk b k).seq = k from Chunk.numbered_seq _ _ k]

/-! ## One chunk -/

/-- Asking for a chunk moves the controller and the clock, and nothing else. -/
theorem ask_eq (u : Setup σ) (p : Progress σ) :
    ∃ flow clock r, u.ask p = ({ p with flow := flow, clock := clock }, r) ∧
      Controller.Move p.flow flow r :=
  ⟨_, _, _, rfl, p.flow.next_move _ _⟩

theorem ask_move {r : Flow.Next} (h : u.ask p = (q, r)) :
    Controller.Move p.flow q.flow r ∧ q.context = p.context ∧ q.transmitter = p.transmitter ∧
      q.report = p.report ∧ q.metrics = p.metrics := by
  obtain ⟨flow, clock, r', he, hm⟩ := ask_eq u p
  rw [he] at h
  cases h
  exact ⟨hm, rfl, rfl, rfl, rfl⟩

/-- The run after a chunk was sent, before the outcome is taken note of. -/
def Progress.after (p : Progress σ) (c : Chunk) (s : Sending σ) : Progress σ :=
  { p with
    context := s.context
    transmitter := s.state
    entries := p.entries ++ s.entries.toArray
    spans := p.spans.push (chunkSpan c s.result) }

theorem step_eq (u : Setup σ) (b : Batch) (c : Chunk) (p : Progress σ) :
    u.step b c p =
      match (u.send b c p.context p.transmitter).result with
      | .error f =>
        (u.fail (p.after c (u.send b c p.context p.transmitter)) c f, some (chunkFault c f))
      | .ok n => (u.delivered (p.after c (u.send b c p.context p.transmitter)) c n, none) := rfl

/-- A reminder of the progress touches the log, the clock and the throughput alone. -/
theorem remind_eq (u : Setup σ) (p : Progress σ) (c : Chunk) :
    ∃ clock reported window rate entries,
      u.remind p c =
        { p with
          clock := clock
          reported := reported
          window := window
          metrics := { p.metrics with throughput := rate }
          entries := entries } := by
  unfold Setup.remind
  split
  · simp only
    split
    · cases hrate : (p.window.close p.clock.read.1).2 with
      | none => exact ⟨_, _, _, p.metrics.throughput, _, rfl⟩
      | some r => exact ⟨_, _, _, r, _, rfl⟩
    · exact ⟨_, _, _, p.metrics.throughput, _, rfl⟩
  · exact ⟨_, _, _, p.metrics.throughput, _, rfl⟩

theorem delivered_eq (u : Setup σ) (p : Progress σ) (c : Chunk) (n : Nat) :
    (u.delivered p c n).flow = p.flow ∧ (u.delivered p c n).context = p.context ∧
      (u.delivered p c n).transmitter = p.transmitter ∧
      (u.delivered p c n).report = p.report.count c n ∧
      ∃ rate, (u.delivered p c n).metrics =
        { p.metrics.sent c.length n (u.latency c.seq) with throughput := rate } := by
  unfold Setup.delivered
  obtain ⟨clock, reported, window, rate, entries, he⟩ := remind_eq u
    { p with
      report := p.report.count c n
      window := p.window.add (Int64.ofNat c.length)
      metrics := p.metrics.sent c.length n (u.latency c.seq) } c
  rw [he]
  exact ⟨rfl, rfl, rfl, rfl, rate, rfl⟩

/-- A chunk is sent when it is encoded and the transmitter takes it. -/
theorem send_eq_ok {ctx : Context} {s : σ} {n : Nat} (h : (u.send b c ctx s).result = .ok n) :
    ∃ bytes, u.serializer.encode (message u.settings.sourceName b c) = .ok bytes ∧
      n = bytes.length ∧ (u.transmitter ctx u.settings.transport.topic bytes s).fault = none := by
  unfold Setup.send at h
  split at h
  · cases h
  · rename_i bytes hb
    simp only at h
    split at h
    · cases h
    · rename_i hf
      cases h
      exact ⟨bytes, hb, rfl, hf⟩

/-! ## From chunk to chunk -/

/-- The progress of a run as it begins. -/
def Setup.begun (u : Setup σ) (b : Batch) (w : World σ) (flow : Controller) : Progress σ where
  flow := flow
  clock := w.clock.read.2
  context := w.context
  transmitter := w.transmitter
  reported := w.clock.read.1
  window := { since := w.clock.read.1 }
  metrics := w.metrics
  entries := #[u.starting b.size]

/-- The run begins with this controller: the settings are accepted and the context lets it. -/
structure Begins (u : Setup σ) (b : Batch) (w : World σ) (flow : Controller) : Prop where
  make_eq : Controller.make (Int64.ofNat b.size) (pacing u.settings) = .ok flow
  context_ok : w.context.fault? = none

/-- **The run has delivered `k` chunks and stands at a progress.** -/
inductive Delivered (u : Setup σ) (b : Batch) (w : World σ) : Nat → Progress σ → Prop
  | begun {flow : Controller} (h : Begins u b w flow) : Delivered u b w 0 (u.begun b w flow)
  | next {k : Nat} {p q p' : Progress σ} {c : Chunk} (h : Delivered u b w k p)
      (ha : u.ask p = (q, .chunk c)) (hs : u.step b c q = (p', none)) :
      Delivered u b w (k + 1) p'

variable {k : Nat}

/-- A delivered chunk was encoded and taken by the transmitter; the run goes on from there. -/
theorem step_delivered (h : u.step b c q = (p, none)) :
    ∃ n, (u.send b c q.context q.transmitter).result = .ok n ∧
      p = u.delivered (q.after c (u.send b c q.context q.transmitter)) c n := by
  rw [step_eq] at h
  split at h
  · cases h
  · rename_i n hn
    cases h
    exact ⟨n, hn, rfl⟩

theorem toNat_ofNat_of_lt {n : Nat} (h : n < 2 ^ 63) : (Int64.ofNat n).toInt.toNat = n := by
  rw [Int64.toInt_ofNat_of_lt h]
  rfl

/-- **After `k` deliveries the controller has not ended and stands at chunk `k` of the plan**;
without a budget of time it has no deadline. -/
theorem Delivered.at_plan (hb : b.size < 2 ^ 63) (h : Delivered u b w k p) :
    Controller.At b.size u.size u.passes p.flow k ∧ p.flow.Live ∧
      p.flow.budget = u.settings.flow.duration ∧
      (¬ 0 < u.settings.flow.duration → p.flow.deadline = none) := by
  induction h with
  | begun h =>
    have hat := Controller.make_at h.make_eq
    rw [toNat_ofNat_of_lt hb] at hat
    obtain ⟨-, hflow⟩ := Controller.make_eq_ok h.make_eq
    refine ⟨hat, ?_⟩
    simp only [Setup.begun]
    rw [hflow]
    exact ⟨Or.inl rfl, rfl, fun _ => rfl⟩
  | @next k p q p' c _ ha hs ih =>
    obtain ⟨hat, hlive, hbud, hdl⟩ := ih
    obtain ⟨hm, -⟩ := ask_move ha
    obtain ⟨n, -, rfl⟩ := step_delivered hs
    rw [(delivered_eq u _ c n).1]
    show Controller.At b.size u.size u.passes q.flow (k + 1) ∧ q.flow.Live ∧
      q.flow.budget = u.settings.flow.duration ∧
      (¬ 0 < u.settings.flow.duration → q.flow.deadline = none)
    have hat' : Controller.At b.size u.size u.passes q.flow (k + 1) := by
      rcases hat.move hm with ⟨hnone, -⟩ | ⟨-, hat'⟩
      · cases hnone
      · exact hat'
    rcases hm.of_live hlive with ⟨a, hr, hq, -⟩ | ⟨hr, -⟩ | ⟨f, hr, -⟩
    · rw [hq] at hat' ⊢
      refine ⟨hat', Or.inr (Controller.emit_active hr.active), ?_, fun h0 => ?_⟩
      · exact hr.budget_eq.trans hbud
      · exact hr.deadline_none (by rw [hbud]; exact h0) (hdl h0)
    · cases hr
    · cases hr

/-- The chunk that is asked for after `k` deliveries is chunk `k`, and there is such a chunk. -/
theorem Delivered.ask_chunk (hb : b.size < 2 ^ 63) (h : Delivered u b w k p)
    (ha : u.ask p = (q, .chunk c)) : c = u.chunk b k ∧ k < u.count b ∧ q.flow.Active := by
  obtain ⟨hat, hlive, -⟩ := h.at_plan hb
  obtain ⟨hm, -⟩ := ask_move ha
  rcases hat.move hm with ⟨hnone, -⟩ | ⟨hc, hat'⟩
  · cases hnone
  · refine ⟨Flow.Next.chunk.inj hc, hat'.le_plan, ?_⟩
    rcases hm.of_live hlive with ⟨a, hr, hq, -⟩ | ⟨hr, -⟩ | ⟨f, hr, -⟩
    · rw [hq]
      exact Controller.emit_active hr.active
    · cases hr
    · cases hr

/-! ## The end of a run -/

/-- The run ends at a progress, with a fault or without one. -/
structure Ends (u : Setup σ) (b : Batch) (w : World σ) (p : Progress σ) (fault : Option Fault) :
    Prop where
  fault_eq : (run u b w).fault = fault
  state_eq : (run u b w).report.state = p.flow.state
  messages_eq : (run u b w).report.messages = p.report.messages
  events_eq : (run u b w).report.events = p.report.events
  bytes_eq : (run u b w).report.bytes = p.report.bytes
  failed_eq : (run u b w).report.failed = p.report.failed
  transmitter_eq : (run u b w).world.transmitter = p.transmitter
  metrics_eq : (run u b w).world.metrics = p.metrics

theorem ends_of_loop {flow : Controller} {fault : Option Fault} (h : Begins u b w flow)
    (hl : loop u b (flow.passes * perPass flow.total flow.chunkSize + 1) (u.begun b w flow) =
      (p, fault)) : Ends u b w p fault := by
  have hctx := h.context_ok
  unfold Setup.begun at hl
  cases fault with
  | none =>
    constructor <;> simp only [run, h.make_eq, Setup.stream, hctx, hl] <;> rfl
  | some f => constructor <;> simp only [run, h.make_eq, Setup.stream, hctx, hl]

theorem Delivered.loop_eq (h : Delivered u b w k p) :
    ∃ flow, Begins u b w flow ∧
      ∀ fuel, loop u b (fuel + k) (u.begun b w flow) = loop u b fuel p := by
  induction h with
  | begun h => exact ⟨_, h, fun _ => rfl⟩
  | next _ ha hs ih =>
    obtain ⟨flow, hbegin, hloop⟩ := ih
    refine ⟨flow, hbegin, fun fuel => ?_⟩
    rw [← Nat.add_assoc, Nat.add_right_comm, hloop]
    simp only [loop, ha, hs]

/-- What the loop does after `k` deliveries is how the run ends, since the plan bounds the number of
chunks. -/
theorem Delivered.ends (hb : b.size < 2 ^ 63) (h : Delivered u b w k p) {p' : Progress σ}
    {fault : Option Fault} (hl : ∀ fuel, loop u b (fuel + 1) p = (p', fault)) :
    Ends u b w p' fault := by
  obtain ⟨flow, hbegin, hloop⟩ := h.loop_eq
  obtain ⟨hat, -⟩ := h.at_plan hb
  obtain ⟨hat₀, -⟩ := (Delivered.begun hbegin).at_plan hb
  have hfuel : flow.passes * perPass flow.total flow.chunkSize + 1 = (u.count b - k + 1) + k := by
    have hle := hat.le_plan
    have hpasses := hat₀.passes_eq
    have htotal := hat₀.total_eq
    have hsize := hat₀.size_eq
    simp only [Setup.begun] at hpasses htotal hsize
    rw [hpasses, htotal, hsize]
    unfold Setup.count
    omega
  refine ends_of_loop hbegin ?_
  rw [hfuel, hloop]
  exact hl _

/-- A run whose controller has no more chunks is over. -/
theorem Delivered.ends_finished (hb : b.size < 2 ^ 63) (h : Delivered u b w k p)
    (ha : u.ask p = (q, .finished)) : Ends u b w q none :=
  h.ends hb fun _ => by simp only [loop, ha]

/-- A run whose controller is interrupted ends with the fault of the interruption. -/
theorem Delivered.ends_interrupted (hb : b.size < 2 ^ 63) (h : Delivered u b w k p) {f : Fault}
    (ha : u.ask p = (q, .failed f)) : Ends u b w (u.interrupted q f) (some f) :=
  h.ends hb fun _ => by simp only [loop, ha]

/-- A run whose chunk is not delivered ends with the fault of the chunk. -/
theorem Delivered.ends_failed (hb : b.size < 2 ^ 63) (h : Delivered u b w k p)
    (ha : u.ask p = (q, .chunk c)) {f : Fault}
    (hf : (u.send b c q.context q.transmitter).result = .error f) :
    Ends u b w (u.fail (q.after c (u.send b c q.context q.transmitter)) c f)
      (some (chunkFault c f)) :=
  h.ends hb fun _ => by simp only [loop, ha, step_eq, hf]

/-- The run comes to its end at `p`: it finishes, is interrupted, or fails at the next chunk. -/
def Halts (u : Setup σ) (b : Batch) (p q : Progress σ) : Prop :=
  u.ask p = (q, .finished) ∨ (∃ f, u.ask p = (q, .failed f)) ∨
    ∃ c f, u.ask p = (q, .chunk c) ∧ (u.send b c q.context q.transmitter).result = .error f

/-- **Every run that begins comes to its end.** -/
theorem exists_end (hb : b.size < 2 ^ 63) {flow : Controller} (hbegin : Begins u b w flow) :
    ∃ k p q, Delivered u b w k p ∧ Halts u b p q := by
  suffices h : ∀ k p, Delivered u b w k p → ∃ k p q, Delivered u b w k p ∧ Halts u b p q from
    h 0 _ (.begun hbegin)
  intro k p h
  -- every delivery leaves fewer chunks of the plan to come
  induction hleft : u.count b - k using Nat.strong_induction_on generalizing k p with
  | _ left ih =>
    cases ha : u.ask p with
    | mk q r =>
      cases r with
      | finished => exact ⟨k, p, q, h, Or.inl ha⟩
      | failed f => exact ⟨k, p, q, h, Or.inr (Or.inl ⟨f, ha⟩)⟩
      | chunk c =>
        have hlt := (h.ask_chunk hb ha).2.1
        cases hs : (u.send b c q.context q.transmitter).result with
        | error f => exact ⟨k, p, q, h, Or.inr (Or.inr ⟨c, f, ha, hs⟩)⟩
        | ok n => exact ih _ (by omega) (k + 1) _ (h.next ha (by rw [step_eq, hs])) rfl

/-! ## Runs that do not begin -/

/-- **What a run leaves behind that does not begin**: it fails at once, touches neither the transmitter
nor the metrics, and has nothing to report. -/
structure Unbegun (u : Setup σ) (b : Batch) (w : World σ) : Prop where
  fault_ne : (run u b w).fault ≠ none
  transmitter_eq : (run u b w).world.transmitter = w.transmitter
  metrics_eq : (run u b w).world.metrics = w.metrics
  report_eq : ∃ state duration, (run u b w).report = { state := state, duration := duration }

theorem unbegun (h : ¬ ∃ flow, Begins u b w flow) : Unbegun u b w := by
  cases hmake : Controller.make (Int64.ofNat b.size) (pacing u.settings) with
  | error f =>
    constructor <;> simp only [run, hmake]
    · exact nofun
    · exact ⟨_, _, rfl⟩
  | ok flow =>
    cases hctx : w.context.fault? with
    | none => exact absurd ⟨flow, hmake, hctx⟩ h
    | some f =>
      constructor <;> simp only [run, hmake, Setup.stream, hctx]
      · exact nofun
      · exact ⟨_, _, rfl⟩

/-! ## Runs that succeed -/

/-- A run without a fault has delivered chunks until its controller was finished. -/
theorem exists_finished_of_fault (hb : b.size < 2 ^ 63)
    (h : (run u b w).fault = none) :
    ∃ k p q, Delivered u b w k p ∧ u.ask p = (q, .finished) := by
  obtain ⟨flow, hbegin⟩ : ∃ flow, Begins u b w flow := by
    by_contra hbegins
    exact (unbegun hbegins).fault_ne h
  obtain ⟨k, p, q, hdelivered, hend⟩ := exists_end hb hbegin
  refine ⟨k, p, q, hdelivered, ?_⟩
  rcases hend with ha | ⟨f, ha⟩ | ⟨c, f, ha, hf⟩
  · exact ha
  · rw [(hdelivered.ends_interrupted hb ha).fault_eq] at h
    cases h
  · rw [(hdelivered.ends_failed hb ha hf).fault_eq] at h
    cases h

end DetectorStream.Run
