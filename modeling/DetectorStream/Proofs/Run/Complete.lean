import DetectorStream.Proofs.Run.Ledger
import DetectorStream.Proofs.Run.Message

/-!
# Runs that nothing disturbs

A run whose context stays live, whose messages are all encoded and whose transmitter takes every one
of them sends the messages of its plan, in order. Only a budget of time can end it before the last
one.

* `Undisturbed`: no wait fails, the context stays live, and every message is taken.
* `Undisturbed.exists_finished`: such a run finishes.
* **`run_sends_plan`**: what it has sent then, and what it reports.
-/

namespace DetectorStream.Run

open Chunk (perPass ofPlan)
open DetectorStream.Flow (Controller)

variable {σ : Type} {u : Setup σ} {b : Batch} {w : World σ} {p q : Progress σ} {c : Chunk} {k : Nat}

/-- **Nothing disturbs the run.** In a live context the waits run out as planned, and the
transmitter takes every message and leaves the context live. -/
structure Undisturbed (u : Setup σ) (w : World σ) : Prop where
  context_eq : w.context = .live
  waits_eq : ∀ flow, u.waits flow .live = {}
  accepts : ∀ topic bytes s, (u.transmitter .live topic bytes s).fault = none ∧
    (u.transmitter .live topic bytes s).context = .live

/-! ## No interruption and no failure -/

theorem Undisturbed.begins (h : Undisturbed u w) (hb : b.size < 2 ^ 63)
    (hsize : 1 ≤ u.settings.messageSize) : ∃ flow, Begins u b w flow := by
  have hnonneg : 0 ≤ Int64.ofNat b.size := by
    rw [Int64.le_iff_toInt_le, Int64.toInt_ofNat_of_lt hb, Int64.toInt_zero]
    omega
  obtain ⟨flow, hflow⟩ := Controller.make_isOk (p := pacing u.settings) hnonneg hsize
  refine ⟨flow, hflow, ?_⟩
  rw [h.context_eq]
  rfl

theorem Undisturbed.context_live (hu : Undisturbed u w) (h : Delivered u b w k p) :
    p.context = .live := by
  induction h with
  | begun h => exact hu.context_eq
  | @next k p q p' c h ha hs ih =>
    obtain ⟨-, hctx, -⟩ := ask_move ha
    obtain ⟨n, hn, rfl⟩ := step_delivered hs
    obtain ⟨bytes, henc, -⟩ := send_eq_ok hn
    rw [(delivered_eq u _ c n).2.1]
    show (u.send b c q.context q.transmitter).context = .live
    unfold Setup.send
    rw [henc, hctx, ih]
    exact (hu.accepts _ _ _).2

/-- The controller is not interrupted. -/
theorem Undisturbed.ask_ne_failed (hu : Undisturbed u w) (hb : b.size < 2 ^ 63)
    (h : Delivered u b w k p) {f : Fault} : u.ask p ≠ (q, .failed f) := by
  intro ha
  obtain ⟨-, hlive, -⟩ := h.at_plan hb
  have hnext : (p.flow.next (u.waits p.flow p.context)
      (p.clock.advance (u.pause p.flow.emitted))).2.2 = .failed f := congrArg Prod.snd ha
  rw [hu.context_live h, hu.waits_eq] at hnext
  exact Controller.next_ne_failed hlive _ f hnext

/-- A message that is encoded is delivered. -/
theorem Undisturbed.send_ne_error (hu : Undisturbed u w) {bytes : Bytes} {f : Fault} {s : σ}
    (henc : u.serializer.encode (message u.settings.sourceName b c) = .ok bytes) :
    (u.send b c .live s).result ≠ .error f := by
  unfold Setup.send
  simp only [henc, (hu.accepts _ _ _).1]
  exact nofun

/-- Every message of the plan is encoded. -/
def Encodes (u : Setup σ) (b : Batch) (buf : Nat → Bytes) : Prop :=
  ∀ k < u.count b, u.serializer.encode (u.planned b k) = .ok (buf k)

theorem size_pos (hsize : 1 ≤ u.settings.messageSize) : 0 < u.size := by
  rw [Int64.le_iff_toInt_le] at hsize
  have hone : (1 : Int64).toInt = 1 := by decide
  unfold Setup.size
  omega

/-- A run that nothing disturbs goes on until its controller has no more chunks. -/
theorem Undisturbed.exists_finished {buf : Nat → Bytes} (hu : Undisturbed u w)
    (hb : b.size < 2 ^ 63) (hsize : 1 ≤ u.settings.messageSize) (henc : Encodes u b buf) :
    ∃ k p q, Delivered u b w k p ∧ u.ask p = (q, .finished) := by
  obtain ⟨flow, hbegin⟩ := hu.begins hb hsize
  obtain ⟨k, p, q, h, hend⟩ := exists_end hb hbegin
  refine ⟨k, p, q, h, ?_⟩
  rcases hend with ha | ⟨f, ha⟩ | ⟨c, f, ha, hf⟩
  · exact ha
  · exact absurd ha (hu.ask_ne_failed hb h)
  · obtain ⟨rfl, hk, -⟩ := h.ask_chunk hb ha
    have hmessage := messageAt_eq_planned hb (size_pos hsize) hk
    rw [(ask_move ha).2.1, hu.context_live h] at hf
    have hmade : u.serializer.encode (message u.settings.sourceName b (u.chunk b k)) =
        .ok (buf k) := by
      rw [← henc k hk, ← hmessage]
      rfl
    exact absurd hf (hu.send_ne_error hmade)

/-! ## What has been sent -/

theorem buffer_of_encodes {buf : Nat → Bytes} (hb : b.size < 2 ^ 63)
    (hsize : 1 ≤ u.settings.messageSize) (henc : Encodes u b buf) (hk : k < u.count b) :
    u.buffer b k = buf k :=
  buffer_eq (by rw [messageAt_eq_planned hb (size_pos hsize) hk, henc k hk])

/-- What the transmitter is offered in the whole of a run. -/
theorem noted_count {buf : Nat → Bytes} (hb : b.size < 2 ^ 63)
    (hsize : 1 ≤ u.settings.messageSize) (henc : Encodes u b buf) :
    u.noted b (u.count b) =
      (List.range (u.count b)).map fun k => (u.settings.transport.topic, buf k) := by
  refine List.map_congr_left fun k hk => ?_
  rw [buffer_of_encodes hb hsize henc (List.mem_range.mp hk)]

/-- Without a budget of time, a run that finishes has delivered every chunk of its plan. -/
theorem Delivered.eq_count (hb : b.size < 2 ^ 63) (h : Delivered u b w k p)
    (hd : ¬ 0 < u.settings.flow.duration) (ha : u.ask p = (q, .finished)) : k = u.count b := by
  obtain ⟨hat, hlive, hbudget, hdeadline⟩ := h.at_plan hb
  exact hat.eq_end hlive (by rw [hbudget]; exact hd) (hdeadline hd) (ask_move ha).1 rfl

/-- A run that finishes is done. -/
theorem Delivered.state_done (hb : b.size < 2 ^ 63) (h : Delivered u b w k p)
    (ha : u.ask p = (q, .finished)) : q.flow.state = .done := by
  obtain ⟨-, hlive, -⟩ := h.at_plan hb
  rcases (ask_move ha).1.of_live hlive with ⟨a, -, -, hr⟩ | ⟨-, hdone⟩ | ⟨f, hr, -⟩
  · cases hr
  · exact hdone
  · cases hr

/-- **A run that nothing disturbs sends the messages of its plan, in order.** The chunks are those
of the plan and lie within the batch, and their columns make up those of the batch, once for each pass.
With a budget of time the run may end early; without one it sends every message and reports so. -/
theorem run_sends_plan {buf : Nat → Bytes} (hb : b.size < 2 ^ 63)
    (hsize : 1 ≤ u.settings.messageSize) (hu : Undisturbed u w) (henc : Encodes u b buf) :
    u.count b = u.passes * perPass b.size u.size ∧
      (List.range (u.count b)).map (u.chunk b) = ofPlan b.size u.size u.passes ∧
      (∀ k < u.count b,
        b.slice (Int64.ofNat (u.chunk b k).offset) (Int64.ofNat (u.chunk b k).length) =
          some (u.planned b k).columns) ∧
      (List.range (u.count b)).flatMap (fun k => (u.planned b k).columns.ids) =
        (List.replicate u.passes b.columns.ids).flatten ∧
      (List.range (u.count b)).flatMap (fun k => (u.planned b k).columns.timestamps) =
        (List.replicate u.passes b.columns.timestamps).flatten ∧
      (run u b w).fault = none ∧ (run u b w).report.state = .done ∧
      (run u b w).report.failed = none ∧
      offers u b w <+:
        (List.range (u.count b)).map (fun k => (u.settings.transport.topic, buf k)) ∧
      (¬ 0 < u.settings.flow.duration →
        offers u b w =
            (List.range (u.count b)).map (fun k => (u.settings.transport.topic, buf k)) ∧
          (run u b w).report.messages = u.count b ∧
          (run u b w).report.events = u.passes * b.size ∧
          (run u b w).report.bytes =
            ((List.range (u.count b)).map fun k => (buf k).length).sum) := by
  have hs := size_pos hsize
  obtain ⟨k, p, q, h, ha⟩ := hu.exists_finished hb hsize henc
  have hends := h.ends_finished hb ha
  obtain ⟨-, -, -, hreport, -⟩ := ask_move ha
  have hledger : Ledger u b k (run u b w).report := by
    refine hends.ledger ?_
    rw [hreport]
    exact h.ledger hb
  obtain ⟨hids, htimestamps⟩ := flatMap_planned_columns (b := b) hs
  refine ⟨rfl, (Chunk.ofPlan_eq_map_numbered _ _ _).symm, fun k hk => slice_chunk hb hs hk, hids,
    htimestamps, hends.fault_eq, ?_, ?_, ?_, fun hd => ?_⟩
  · rw [hends.state_eq, h.state_done hb ha]
  · rw [hends.failed_eq, hreport, h.failed_eq hb]
  · rw [h.offers_finished hb ha, ← noted_count hb hsize henc]
    exact noted_prefix hledger.le_count
  · have hk : k = u.count b := h.eq_count hb hd ha
    subst hk
    refine ⟨?_, hledger.messages_eq, ?_, ?_⟩
    · rw [h.offers_finished hb ha, noted_count hb hsize henc]
    · rw [hledger.events_eq, sum_length_chunk hs]
    · rw [hledger.bytes_eq]
      refine congrArg List.sum (List.map_congr_left fun i hi => ?_)
      rw [buffer_of_encodes hb hsize henc (List.mem_range.mp hi)]

/-- A run that sends messages of two events, twice, to a transmitter that takes everything. -/
def twoByTwo : Setup Unit where
  settings := { transport := { topic := "events" }, flow := { eventsPerMessage := 2, passes := 2 } }
  serializer := ⟨"ids", fun m => .ok (m.columns.ids.map fun i => i.toUInt64.toUInt8)⟩
  transmitter := fun ctx _ _ s => ⟨s, ctx, none, []⟩
  runId := "two"

/-- Three events in messages of two, over two passes. -/
theorem run_sends_plan_three_by_two :
    let b := Batch.live #[⟨1, 10⟩, ⟨2, 20⟩, ⟨3, 30⟩]
    let r := run twoByTwo b { clock := ⟨0, 1⟩, transmitter := () }
    offers twoByTwo b { clock := ⟨0, 1⟩, transmitter := () } =
        [(Text.ofString "events", [1, 2]), (Text.ofString "events", [3]),
          (Text.ofString "events", [1, 2]), (Text.ofString "events", [3])] ∧
      r.report.messages = 4 ∧ r.report.events = 6 ∧ r.report.bytes = 6 ∧ r.fault = none := by
  intro b r
  have hu : Undisturbed twoByTwo { clock := ⟨0, 1⟩, transmitter := () } :=
    ⟨rfl, Controller.waits_live, fun _ _ _ => ⟨rfl, rfl⟩⟩
  have henc : Encodes twoByTwo b fun k => if k % 2 = 0 then [1, 2] else [3] := by
    unfold Encodes
    decide
  have hcount : twoByTwo.count b = 4 := by decide
  obtain ⟨-, -, -, -, -, hfault, -, -, -, hall⟩ := run_sends_plan (by decide) (by decide) hu henc
  obtain ⟨hoffers, hmessages, hevents, hbytes⟩ := hall (by decide)
  rw [hcount] at hoffers hmessages hbytes
  exact ⟨hoffers, hmessages, hevents, hbytes, hfault⟩

end DetectorStream.Run
