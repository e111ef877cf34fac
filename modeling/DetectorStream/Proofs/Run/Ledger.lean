import DetectorStream.Proofs.Number.Whole
import DetectorStream.Proofs.Run.Offers

/-!
# The three ledgers of a run

What a run delivers is written down three times: in its report, in the metrics, and by the
controller that hands out the chunks. After `k` deliveries they agree.

* `Ledger`: what the report says after `k` deliveries.
* **`Delivered.ledger`**: it says so.
* `Tallies`: the metrics went up by what a report says.
* **`Delivered.tallies`**: they do with every delivery.
* `Ends.ledger`, `Ends.tallies`: what holds when a run ends holds of its result.
-/

namespace DetectorStream.Run

variable {σ : Type} {u : Setup σ} {b : Batch} {w : World σ} {p q : Progress σ} {c : Chunk} {k : Nat}

/-! ## The report -/

/-- **The report after `k` deliveries** counts the chunks `0` to `k - 1`, which were all encoded. -/
structure Ledger (u : Setup σ) (b : Batch) (k : Nat) (r : Report) : Prop where
  messages_eq : r.messages = k
  events_eq : r.events = ((List.range k).map fun i => (u.chunk b i).length).sum
  bytes_eq : r.bytes = ((List.range k).map fun i => (u.buffer b i).length).sum
  encoded : ∀ i < k, u.serializer.encode (u.messageAt b i) = .ok (u.buffer b i)
  le_count : k ≤ u.count b

theorem sum_range_succ_map (f : Nat → Nat) (k : Nat) :
    ((List.range (k + 1)).map f).sum = ((List.range k).map f).sum + f k := by
  rw [List.range_succ, List.map_append, List.sum_append]
  simp

/-- One more chunk in the report. -/
theorem Ledger.count {r : Report} {bytes : Bytes} (h : Ledger u b k r)
    (henc : u.serializer.encode (u.messageAt b k) = .ok bytes) (hk : k < u.count b) :
    Ledger u b (k + 1) (r.count (u.chunk b k) bytes.length) := by
  have hbuf := buffer_eq henc
  refine ⟨?_, ?_, ?_, ?_, hk⟩
  · simp only [Report.count]
    rw [h.messages_eq]
  · simp only [Report.count]
    rw [h.events_eq, sum_range_succ_map]
  · simp only [Report.count]
    rw [h.bytes_eq, sum_range_succ_map, hbuf]
  · intro i hi
    rcases Nat.lt_succ_iff_lt_or_eq.mp hi with hlt | rfl
    · exact h.encoded i hlt
    · rw [henc, hbuf]

/-- A report that names a failed chunk counts the same. -/
theorem Ledger.fail {r : Report} (h : Ledger u b k r) (c : Chunk) :
    Ledger u b k { r with failed := some c } :=
  ⟨h.messages_eq, h.events_eq, h.bytes_eq, h.encoded, h.le_count⟩

theorem Ledger.zero (u : Setup σ) (b : Batch) : Ledger u b 0 {} :=
  ⟨rfl, rfl, rfl, fun i hi => absurd hi (Nat.not_lt_zero i), Nat.zero_le _⟩

/-- A delivery, seen from the ledgers: the chunk is the next one of the plan, and it was encoded
into the octets that are counted. -/
theorem Delivered.delivery {p' : Progress σ} (hb : b.size < 2 ^ 63) (h : Delivered u b w k p)
    (ha : u.ask p = (q, .chunk c)) (hs : u.step b c q = (p', none)) :
    ∃ bytes, u.serializer.encode (u.messageAt b k) = .ok bytes ∧ c = u.chunk b k ∧ k < u.count b ∧
      p'.report = p.report.count (u.chunk b k) bytes.length ∧
      ∃ rate, p'.metrics =
        { p.metrics.sent (u.chunk b k).length bytes.length (u.latency c.seq) with
          throughput := rate } := by
  obtain ⟨n, hn, rfl⟩ := step_delivered hs
  obtain ⟨bytes, henc, rfl, -⟩ := send_eq_ok hn
  obtain ⟨rfl, hk, -⟩ := h.ask_chunk hb ha
  obtain ⟨-, -, -, hreport, hmetrics⟩ := ask_move ha
  obtain ⟨-, -, -, hreport', hmetrics'⟩ := delivered_eq u
    (q.after (u.chunk b k) (u.send b (u.chunk b k) q.context q.transmitter)) (u.chunk b k)
    bytes.length
  refine ⟨bytes, henc, rfl, hk, ?_, ?_⟩
  · rw [hreport', ← hreport]
    rfl
  · rw [← hmetrics]
    exact hmetrics'

/-- **After `k` deliveries the report counts the first `k` chunks.** -/
theorem Delivered.ledger (hb : b.size < 2 ^ 63) (h : Delivered u b w k p) :
    Ledger u b k p.report := by
  induction h with
  | begun h => exact Ledger.zero u b
  | next h ha hs ih =>
    obtain ⟨bytes, henc, -, hk, hreport, -⟩ := h.delivery hb ha hs
    rw [hreport]
    exact ih.count henc hk

/-- No chunk has failed as long as chunks are delivered. -/
theorem Delivered.failed_eq (hb : b.size < 2 ^ 63) (h : Delivered u b w k p) :
    p.report.failed = none := by
  induction h with
  | begun h => rfl
  | next h ha hs ih =>
    obtain ⟨bytes, -, -, -, hreport, -⟩ := h.delivery hb ha hs
    rw [hreport]
    exact ih

/-! ## The metrics -/

theorem amount_eq {n : Nat} (hn : n < 2 ^ 53) : Metrics.amount n = UInt64.ofNat n :=
  Binary64.toUInt64_ofInt hn

/-- **The metrics went up by what a report says**: the counters by its three counts, modulo the size
of a counter, and the failures by one if a chunk failed. -/
structure Tallies (before after : Metrics) (r : Report) : Prop where
  messages_eq : after.messages.toNat = (before.messages.toNat + r.messages) % 2 ^ 64
  events_eq : after.events.toNat = (before.events.toNat + r.events) % 2 ^ 64
  bytes_eq : after.bytes.toNat = (before.bytes.toNat + r.bytes) % 2 ^ 64
  failures_eq : after.lost + after.lostRetryable =
    before.lost + before.lostRetryable + (if r.failed.isSome then 1 else 0)

theorem Tallies.refl (m : Metrics) : Tallies m m {} :=
  ⟨(Nat.mod_eq_of_lt m.messages.toNat_lt).symm, (Nat.mod_eq_of_lt m.events.toNat_lt).symm,
    (Nat.mod_eq_of_lt m.bytes.toNat_lt).symm, rfl⟩

/-- Adding to a counter adds to what it went up by. -/
theorem toNat_add_ofNat {x : UInt64} {a m n : Nat} (hx : x.toNat = (a + m) % 2 ^ 64) :
    (x + UInt64.ofNat n).toNat = (a + (m + n)) % 2 ^ 64 := by
  rw [UInt64.toNat_add, UInt64.toNat_ofNat', hx, ← Nat.add_mod, Nat.add_assoc]

/-- A delivered chunk goes into the metrics as it goes into the report. -/
theorem Tallies.sent {m m' : Metrics} {r : Report} {n : Nat} {latency : Duration} {rate : Float}
    (h : Tallies m m' r) (hc : c.length < 2 ^ 53) (hn : n < 2 ^ 53) :
    Tallies m { m'.sent c.length n latency with throughput := rate } (r.count c n) := by
  refine ⟨?_, ?_, ?_, h.failures_eq⟩
  · exact toNat_add_ofNat (n := 1) h.messages_eq
  · simp only [Metrics.sent, amount_eq hc]
    exact toNat_add_ofNat h.events_eq
  · simp only [Metrics.sent, amount_eq hn]
    exact toNat_add_ofNat h.bytes_eq

/-- A failed chunk goes into the metrics as it goes into the report. -/
theorem Tallies.failed {m m' : Metrics} {r : Report} {retryable : Bool} (h : Tallies m m' r)
    (hr : r.failed = none) (c : Chunk) :
    Tallies m (m'.failed retryable) { r with failed := some c } := by
  have hfail := h.failures_eq
  rw [hr] at hfail
  unfold Metrics.failed
  cases retryable with
  | false =>
    refine ⟨h.messages_eq, h.events_eq, h.bytes_eq, ?_⟩
    simp at hfail ⊢
    omega
  | true =>
    refine ⟨h.messages_eq, h.events_eq, h.bytes_eq, ?_⟩
    simp at hfail ⊢
    omega

/-- The counts of a run are small enough for a double: events as well as octets. -/
structure Exact (u : Setup σ) (b : Batch) : Prop where
  size_lt : b.size < 2 ^ 53
  buffer_lt : ∀ k < u.count b, ∀ bytes, u.serializer.encode (u.messageAt b k) = .ok bytes →
    bytes.length < 2 ^ 53

theorem Exact.size_lt_word (h : Exact u b) : b.size < 2 ^ 63 := Nat.lt_trans h.size_lt (by decide)

theorem length_chunk_le (u : Setup σ) (b : Batch) (k : Nat) : (u.chunk b k).length ≤ b.size := by
  simp only [Setup.chunk, Chunk.numbered, Chunk.nth]
  omega

/-- **With every delivery the metrics go up by what is added to the report.** -/
theorem Delivered.tallies (hx : Exact u b) (h : Delivered u b w k p) :
    Tallies w.metrics p.metrics p.report := by
  induction h with
  | begun h => exact Tallies.refl w.metrics
  | @next k p q p' c h ha hs ih =>
    obtain ⟨bytes, henc, -, hk, hreport, rate, hmetrics⟩ := h.delivery hx.size_lt_word ha hs
    rw [hreport, hmetrics]
    have hlength := Nat.lt_of_le_of_lt (length_chunk_le u b k) hx.size_lt
    exact ih.sent hlength (hx.buffer_lt k hk bytes henc)

/-! ## At the end of a run -/

variable {fault : Option Fault}

/-- The report of a run counts what was counted when it ended. -/
theorem Ends.ledger (h : Ends u b w p fault) (hl : Ledger u b k p.report) :
    Ledger u b k (run u b w).report := by
  refine ⟨?_, ?_, ?_, hl.encoded, hl.le_count⟩
  · rw [h.messages_eq, hl.messages_eq]
  · rw [h.events_eq, hl.events_eq]
  · rw [h.bytes_eq, hl.bytes_eq]

theorem Ends.tallies (h : Ends u b w p fault) (ht : Tallies w.metrics p.metrics p.report) :
    Tallies w.metrics (run u b w).world.metrics (run u b w).report := by
  rw [h.metrics_eq]
  refine ⟨?_, ?_, ?_, ?_⟩
  · rw [h.messages_eq, ht.messages_eq]
  · rw [h.events_eq, ht.events_eq]
  · rw [h.bytes_eq, ht.bytes_eq]
  · rw [h.failed_eq, ht.failures_eq]

end DetectorStream.Run
