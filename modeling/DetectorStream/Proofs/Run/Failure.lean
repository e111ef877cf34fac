import DetectorStream.Proofs.Fault.Wrapping
import DetectorStream.Proofs.Run.Ledger

/-!
# Runs that fail

The first chunk that is not encoded or not taken ends the run, and so does an interruption of the
controller. Whatever ends a run, its report, its metrics and what its transmitter was offered tell
of the same chunks.

* `Fails`, `Interrupted`: the two ways in which a run goes wrong after `k` deliveries.
* `chunkFault_wraps`: the fault of a failed chunk tells of its cause, its number and its offset.
* `run_tallies`: the metrics go up by what the report says, in every run.
* **`run_accounts`**: what a run leaves behind that went wrong.
-/

namespace DetectorStream.Run

variable {σ : Type} {u : Setup σ} {b : Batch} {w : World σ} {p q : Progress σ} {c : Chunk} {k : Nat}
  {f : Fault}

/-! ## The fault of a chunk -/

/-- **The fault of a chunk stands above its cause, is classified as its cause is, and has the number
and the offset of the chunk.** -/
theorem chunkFault_wraps (c : Chunk) (f : Fault) :
    (chunkFault c f).cause? = some f ∧ (chunkFault c f).kind = f.kind ∧
      (chunkFault c f).isRetryable = f.isRetryable ∧
      (chunkFault c f).outermost?.map Report.details =
        some [(Text.ofString "seq", Detail.number c.seq),
          (Text.ofString "offset", Detail.number c.offset)] := by
  obtain ⟨hkind, hretry⟩ := f.wrap_kind ("chunk " ++ Decimal.ofNat c.seq ++ " failed")
  exact ⟨rfl, hkind, hretry, rfl⟩

/-! ## How a run goes wrong -/

/-- **Chunk number `k` is the first that fails**: the run delivers `k` chunks, and the next one is
not encoded or not taken. -/
def Fails (u : Setup σ) (b : Batch) (w : World σ) (k : Nat) (f : Fault) : Prop :=
  ∃ p q c, Delivered u b w k p ∧ u.ask p = (q, .chunk c) ∧
    (u.send b c q.context q.transmitter).result = .error f

/-- **The run is interrupted after `k` deliveries**, when its controller is asked for a chunk. -/
def Interrupted (u : Setup σ) (b : Batch) (w : World σ) (k : Nat) (f : Fault) : Prop :=
  ∃ p q, Delivered u b w k p ∧ u.ask p = (q, .failed f)

theorem fail_state (hq : q.flow.Active) (c : Chunk) (s : Sending σ) (f : Fault) :
    (u.fail (q.after c s) c f).flow.state = .faulted := by
  show (q.flow.fail f).1.state = .faulted
  rw [Flow.Controller.fail_active hq]

/-- An interrupted controller is faulted. -/
theorem Delivered.state_faulted (hb : b.size < 2 ^ 63) (h : Delivered u b w k p)
    (ha : u.ask p = (q, .failed f)) : q.flow.state = .faulted := by
  obtain ⟨-, hlive, -⟩ := h.at_plan hb
  rcases (ask_move ha).1.of_live hlive with ⟨a, -, -, hr⟩ | ⟨hr, -⟩ | ⟨f', -, hfaulted⟩
  · cases hr
  · cases hr
  · exact hfaulted

/-! ## The metrics of every run -/

/-- **The metrics go up by what the report says, in every run.** -/
theorem run_tallies (hx : Exact u b) (w : World σ) :
    Tallies w.metrics (run u b w).world.metrics (run u b w).report := by
  have hb := hx.size_lt_word
  by_cases hbegins : ∃ flow, Begins u b w flow
  · obtain ⟨flow, hbegin⟩ := hbegins
    obtain ⟨k, p, q, h, hend⟩ := exists_end hb hbegin
    have ht := h.tallies hx
    rcases hend with ha | ⟨f, ha⟩ | ⟨c, f, ha, hf⟩
    · obtain ⟨-, -, -, hreport, hmetrics⟩ := ask_move ha
      refine (h.ends_finished hb ha).tallies ?_
      rw [hreport, hmetrics]
      exact ht
    · obtain ⟨-, -, -, hreport, hmetrics⟩ := ask_move ha
      refine (h.ends_interrupted hb ha).tallies ?_
      show Tallies w.metrics q.metrics q.report
      rw [hreport, hmetrics]
      exact ht
    · obtain ⟨-, -, -, hreport, hmetrics⟩ := ask_move ha
      refine (h.ends_failed hb ha hf).tallies ?_
      show Tallies w.metrics (q.metrics.failed f.isRetryable) { q.report with failed := some c }
      rw [hreport, hmetrics]
      exact ht.failed (h.failed_eq hb) c
  · have hunbegun := unbegun hbegins
    obtain ⟨state, duration, hreport⟩ := hunbegun.report_eq
    have hrefl := Tallies.refl w.metrics
    rw [hunbegun.metrics_eq, hreport]
    exact ⟨hrefl.messages_eq, hrefl.events_eq, hrefl.bytes_eq, hrefl.failures_eq⟩

/-! ## What a run leaves behind that went wrong -/

/-- **The ledgers of a run agree, wherever it goes wrong.** When chunk `k` is the first that fails,
the transmitter was offered the chunks before it in order, then chunk `k` if it was encoded, and nothing
more; the report counts the chunks before it and names it; and the fault of the run stands above the
cause. An interrupted run names no chunk. In every run the metrics go up by what is reported. -/
theorem run_accounts (hb : b.size < 2 ^ 63) :
    (∀ k f, Fails u b w k f →
      (∀ i < k, u.serializer.encode (u.messageAt b i) = .ok (u.buffer b i)) ∧
      offers u b w =
        (List.range k).map (fun i => (u.settings.transport.topic, u.buffer b i)) ++
          (match u.serializer.encode (u.messageAt b k) with
            | .ok bytes => [(u.settings.transport.topic, bytes)]
            | .error _ => []) ∧
      (run u b w).report.messages = k ∧
      (run u b w).report.events = ((List.range k).map fun i => (u.chunk b i).length).sum ∧
      (run u b w).report.bytes = ((List.range k).map fun i => (u.buffer b i).length).sum ∧
      (run u b w).report.failed = some (u.chunk b k) ∧
      (run u b w).report.state = .faulted ∧
      ∃ e, (run u b w).fault = some e ∧ e.cause? = some f ∧ e.kind = f.kind ∧
        e.isRetryable = f.isRetryable ∧
        e.outermost?.map Report.details =
          some [(Text.ofString "seq", Detail.number k),
            (Text.ofString "offset", Detail.number (u.chunk b k).offset)]) ∧
    (∀ k f, Interrupted u b w k f →
      offers u b w = (List.range k).map (fun i => (u.settings.transport.topic, u.buffer b i)) ∧
      (run u b w).report.messages = k ∧
      (run u b w).report.failed = none ∧ (run u b w).report.state = .faulted ∧
      (run u b w).fault = some f) ∧
    (Exact u b → Tallies w.metrics (run u b w).world.metrics (run u b w).report) := by
  refine ⟨?_, ?_, fun hx => run_tallies hx w⟩
  · rintro k f ⟨p, q, c, h, ha, hf⟩
    obtain ⟨rfl, -, hactive⟩ := h.ask_chunk hb ha
    have hends := h.ends_failed hb ha hf
    obtain ⟨-, -, -, hreport, -⟩ := ask_move ha
    have hledger : Ledger u b k (run u b w).report := by
      refine hends.ledger ?_
      show Ledger u b k { q.report with failed := some (u.chunk b k) }
      rw [hreport]
      exact (h.ledger hb).fail _
    have hstate : (run u b w).report.state = .faulted := by
      rw [hends.state_eq]
      exact fail_state hactive _ _ _
    obtain ⟨hcause, hkind, hretry, hdetails⟩ := chunkFault_wraps (u.chunk b k) f
    have hseq : (u.chunk b k).seq = k := Chunk.numbered_seq _ _ k
    rw [hseq] at hdetails
    refine ⟨hledger.encoded, ?_, hledger.messages_eq, hledger.events_eq, hledger.bytes_eq,
      hends.failed_eq, hstate, _, hends.fault_eq, hcause, hkind, hretry, hdetails⟩
    rw [h.offers_failed hb ha hf]
    cases henc : u.serializer.encode (u.messageAt b k) with
    | error f' => exact (List.append_nil _).symm
    | ok bytes =>
      simp only [noted_succ, buffer_eq henc]
      rfl
  · rintro k f ⟨p, q, h, ha⟩
    have hends := h.ends_interrupted hb ha
    obtain ⟨-, -, -, hreport, -⟩ := ask_move ha
    have hledger : Ledger u b k (run u b w).report := by
      refine hends.ledger ?_
      show Ledger u b k q.report
      rw [hreport]
      exact h.ledger hb
    refine ⟨h.offers_interrupted hb ha, hledger.messages_eq, ?_, ?_, hends.fault_eq⟩
    · rw [hends.failed_eq, ← h.failed_eq hb, ← hreport]
      rfl
    · rw [hends.state_eq, ← h.state_faulted hb ha]
      rfl

/-- A run that sends messages of two events to a transmitter that breaks at its second message. -/
def breaking : Setup Nat where
  settings := { transport := { topic := "events" }, flow := { eventsPerMessage := 2 } }
  serializer := ⟨"ids", fun m => .ok (m.columns.ids.map fun i => i.toUInt64.toUInt8)⟩
  transmitter := fun ctx _ _ n =>
    ⟨n + 1, ctx, if n = 1 then some (.transmission true "broken" none) else none, []⟩
  runId := "breaking"

theorem breaking_fails :
    Fails breaking (.live #[⟨1, 10⟩, ⟨2, 20⟩, ⟨3, 30⟩]) { clock := ⟨0, 1⟩, transmitter := 0 } 1
      (.transmission true "broken" none) :=
  ⟨_, _, _, .next (.begun ⟨rfl, rfl⟩) rfl rfl, rfl, rfl⟩

theorem breaking_exact : Exact breaking (.live #[⟨1, 10⟩, ⟨2, 20⟩, ⟨3, 30⟩]) := by
  refine ⟨by decide, fun k hk bytes henc => ?_⟩
  have hcount : breaking.count (.live #[⟨1, 10⟩, ⟨2, 20⟩, ⟨3, 30⟩]) = 2 := by decide
  rw [hcount] at hk
  have hk' : k = 0 ∨ k = 1 := by omega
  rcases hk' with rfl | rfl
  · cases henc
    decide
  · cases henc
    decide

/-- The second of two messages is not taken: both were offered, one is counted, and the metrics went
up by one message of two events and one failure. -/
theorem run_accounts_breaking :
    let b := Batch.live #[⟨1, 10⟩, ⟨2, 20⟩, ⟨3, 30⟩]
    let r := run breaking b { clock := ⟨0, 1⟩, transmitter := 0 }
    offers breaking b { clock := ⟨0, 1⟩, transmitter := 0 } =
        [(Text.ofString "events", [1, 2]), (Text.ofString "events", [3])] ∧
      r.report.messages = 1 ∧ r.report.events = 2 ∧ r.report.bytes = 2 ∧
      r.report.failed = some ⟨1, 0, 2, 1⟩ ∧ r.report.state = .faulted ∧
      r.world.metrics.events.toNat = (0 + r.report.events) % 2 ^ 64 := by
  intro b r
  have haccounts := run_accounts (u := breaking) (b := b)
    (w := { clock := ⟨0, 1⟩, transmitter := 0 }) (by decide)
  obtain ⟨-, hoffers, hmessages, hevents, hbytes, hfailed, hstate, -⟩ :=
    haccounts.1 1 _ breaking_fails
  exact ⟨hoffers.trans (by decide), hmessages, hevents, hbytes, hfailed.trans (by decide), hstate,
    (haccounts.2.2 breaking_exact).events_eq⟩

end DetectorStream.Run
