import DetectorStream.Proofs.Run.Course

/-!
# What a transmitter is offered

To see what a run offers to its transmitter, the transmitter is replaced by one that does the same
and also notes down every message it is given. The run does not notice (`run_noting`), so the notes
are those of the run itself.

* `offers`: the messages that a run offers, with their topics, in order.
* **`run_noting`**: a run over a noting transmitter is the run over the transmitter itself.
* **`Delivered.notes_eq`**: after `k` deliveries the notes are the encoded messages of the first `k`
  chunks.
-/

namespace DetectorStream

variable {σ : Type}

/-- Messages with their topics, in the order in which they were offered. -/
abbrev Notes := List (Text × Bytes)

/-- The same transmitter, which also notes down what it is offered. -/
def Delivery.Transmitter.noting (t : Delivery.Transmitter σ) : Delivery.Transmitter (σ × Notes) :=
  fun ctx topic bs s =>
    let o := t ctx topic bs s.1
    ⟨(o.state, s.2 ++ [(topic, bs)]), o.context, o.fault, o.entries⟩

namespace Run

/-- The same setup over a noting transmitter. -/
def Setup.noting (u : Setup σ) : Setup (σ × Notes) where
  settings := u.settings
  serializer := u.serializer
  transmitter := u.transmitter.noting
  runId := u.runId
  latency := u.latency
  pause := u.pause
  waits := u.waits

/-- The same world over a noting transmitter that has noted nothing yet. -/
def World.noting (w : World σ) : World (σ × Notes) :=
  ⟨w.clock, w.context, (w.transmitter, []), w.metrics⟩

/-- What a run offers to its transmitter. -/
def offers (u : Setup σ) (b : Batch) (w : World σ) : Notes :=
  (run u.noting b w.noting).world.transmitter.2

/-- A progress without the notes. -/
def Progress.bare (p : Progress (σ × Notes)) : Progress σ where
  flow := p.flow
  clock := p.clock
  context := p.context
  transmitter := p.transmitter.1
  report := p.report
  reported := p.reported
  window := p.window
  metrics := p.metrics
  entries := p.entries
  spans := p.spans

/-- A result without the notes. -/
def Result.bare (r : Result (σ × Notes)) : Result σ where
  world := ⟨r.world.clock, r.world.context, r.world.transmitter.1, r.world.metrics⟩
  report := r.report
  fault := r.fault
  entries := r.entries
  spans := r.spans

variable {u : Setup σ} {b : Batch} {w : World σ} {c : Chunk} {k : Nat}

/-! ## The run does not notice -/

theorem ask_noting (u : Setup σ) (p : Progress (σ × Notes)) :
    u.ask p.bare = ((u.noting.ask p).1.bare, (u.noting.ask p).2) := rfl

theorem send_noting (u : Setup σ) (b : Batch) (c : Chunk) (ctx : Context) (s : σ × Notes) :
    u.send b c ctx s.1 =
      ⟨(u.noting.send b c ctx s).state.1, (u.noting.send b c ctx s).context,
        (u.noting.send b c ctx s).result, (u.noting.send b c ctx s).entries⟩ := by
  unfold Setup.send
  simp only [Setup.noting]
  split
  · rfl
  · rfl

theorem remind_noting (u : Setup σ) (p : Progress (σ × Notes)) (c : Chunk) :
    u.remind p.bare c = (u.noting.remind p c).bare := by
  have hsettings : u.noting.settings = u.settings := rfl
  have hclock : p.bare.clock = p.clock := rfl
  have hreported : p.bare.reported = p.reported := rfl
  unfold Setup.remind
  rw [hsettings, hclock]
  by_cases hon : 0 < u.settings.reportInterval
  · rw [if_pos hon, if_pos hon]
    simp only [hreported]
    by_cases hdue : u.settings.reportInterval ≤ Duration.saturate (p.clock.read.1 - p.reported)
    · rw [if_pos hdue, if_pos hdue]
      rfl
    · rw [if_neg hdue, if_neg hdue]
      rfl
  · rw [if_neg hon, if_neg hon]

theorem delivered_noting (u : Setup σ) (p : Progress (σ × Notes)) (c : Chunk) (n : Nat) :
    u.delivered p.bare c n = (u.noting.delivered p c n).bare := by
  unfold Setup.delivered
  rw [← remind_noting]
  rfl

theorem step_noting (u : Setup σ) (b : Batch) (c : Chunk) (p : Progress (σ × Notes)) :
    u.step b c p.bare = ((u.noting.step b c p).1.bare, (u.noting.step b c p).2) := by
  have hsend : u.send b c p.bare.context p.bare.transmitter = _ :=
    send_noting u b c p.context p.transmitter
  have hafter : p.bare.after c (u.send b c p.bare.context p.bare.transmitter) =
      (p.after c (u.noting.send b c p.context p.transmitter)).bare := by
    rw [hsend]
    rfl
  have hresult : (u.send b c p.bare.context p.bare.transmitter).result =
      (u.noting.send b c p.context p.transmitter).result := by rw [hsend]
  rw [step_eq, step_eq, hafter, hresult]
  cases (u.noting.send b c p.context p.transmitter).result with
  | error f => rfl
  | ok n => exact congrArg (·, none) (delivered_noting u _ c n)

theorem loop_noting (u : Setup σ) (b : Batch) (fuel : Nat) (p : Progress (σ × Notes)) :
    loop u b fuel p.bare = ((loop u.noting b fuel p).1.bare, (loop u.noting b fuel p).2) := by
  induction fuel generalizing p with
  | zero => rfl
  | succ fuel ih =>
    simp only [loop]
    rw [ask_noting]
    cases u.noting.ask p with
    | mk q r =>
      cases r with
      | finished => rfl
      | failed f => rfl
      | chunk c =>
        simp only
        rw [step_noting]
        cases u.noting.step b c q with
        | mk q' fault =>
          cases fault with
          | none => exact ih q'
          | some f => rfl

theorem stream_noting (u : Setup σ) (b : Batch) (start : Int) (p : Progress (σ × Notes)) :
    u.stream b start p.bare =
      ((u.noting.stream b start p).1.bare, (u.noting.stream b start p).2) := by
  unfold Setup.stream
  have hctx : p.bare.context = p.context := rfl
  have hflow : p.bare.flow = p.flow := rfl
  rw [hctx, hflow]
  cases p.context.fault? with
  | some f => rfl
  | none =>
    simp only
    rw [loop_noting]
    cases loop u.noting b (p.flow.passes * Chunk.perPass p.flow.total p.flow.chunkSize + 1) p with
    | mk q fault =>
      cases fault with
      | none => rfl
      | some f => rfl

/-- **Noting does not change a run.** -/
theorem run_noting (u : Setup σ) (b : Batch) (w : World σ) :
    run u b w = (run u.noting b w.noting).bare := by
  unfold run
  have hsettings : u.noting.settings = u.settings := rfl
  rw [hsettings]
  cases Flow.Controller.make (Int64.ofNat b.size) (pacing u.settings) with
  | error f => rfl
  | ok flow =>
    have h := stream_noting u b w.clock.read.1 (u.noting.begun b w.noting flow)
    have hbare : (u.noting.begun b w.noting flow).bare = u.begun b w flow := rfl
    rw [hbare] at h
    unfold Setup.begun at h
    simp only [h]
    rfl

/-! ## The notes -/

/-- The octets of message number `k`, when it is encoded. -/
def Setup.buffer (u : Setup σ) (b : Batch) (k : Nat) : Bytes :=
  (u.serializer.encode (u.messageAt b k)).toOption.getD []

/-- What is noted of the first `k` messages. -/
def Setup.noted (u : Setup σ) (b : Batch) (k : Nat) : Notes :=
  (List.range k).map fun i => (u.settings.transport.topic, u.buffer b i)

theorem buffer_eq {bytes : Bytes} (h : u.serializer.encode (u.messageAt b k) = .ok bytes) :
    u.buffer b k = bytes := by
  unfold Setup.buffer
  rw [h]
  rfl

theorem noted_succ (u : Setup σ) (b : Batch) (k : Nat) :
    u.noted b (k + 1) = u.noted b k ++ [(u.settings.transport.topic, u.buffer b k)] := by
  unfold Setup.noted
  rw [List.range_succ, List.map_append]
  rfl

theorem noted_prefix {k n : Nat} (h : k ≤ n) : u.noted b k <+: u.noted b n := by
  unfold Setup.noted
  have htake : (List.range n).take k = List.range k := by
    rw [List.take_range, Nat.min_eq_left h]
  rw [← htake, List.map_take]
  exact List.take_prefix _ _

/-- A message that is encoded is offered, whatever the transmitter makes of it. -/
theorem send_notes {ctx : Context} {s : σ × Notes} {bytes : Bytes}
    (h : u.serializer.encode (message u.settings.sourceName b c) = .ok bytes) :
    (u.noting.send b c ctx s).state.2 = s.2 ++ [(u.settings.transport.topic, bytes)] := by
  unfold Setup.send
  simp only [Setup.noting, h]
  rfl

/-- A message that is not encoded is not offered. -/
theorem send_notes_error {ctx : Context} {s : σ × Notes} {f : Fault}
    (h : u.serializer.encode (message u.settings.sourceName b c) = .error f) :
    (u.noting.send b c ctx s).state.2 = s.2 := by
  unfold Setup.send
  simp only [Setup.noting, h]

theorem ask_of_noting {p' : Progress (σ × Notes)} {q : Progress σ} {r : Flow.Next}
    (h : u.ask p'.bare = (q, r)) : ∃ q', u.noting.ask p' = (q', r) ∧ q'.bare = q := by
  rw [ask_noting] at h
  cases h
  exact ⟨_, rfl, rfl⟩

theorem step_of_noting {q' : Progress (σ × Notes)} {p : Progress σ} {fault : Option Fault}
    (h : u.step b c q'.bare = (p, fault)) :
    ∃ p', u.noting.step b c q' = (p', fault) ∧ p'.bare = p := by
  rw [step_noting] at h
  cases h
  exact ⟨_, rfl, rfl⟩

/-- **After `k` deliveries the first `k` messages have been noted, and nothing else.** -/
theorem Delivered.notes_eq {p : Progress σ} (hb : b.size < 2 ^ 63) (h : Delivered u b w k p) :
    ∃ p', Delivered u.noting b w.noting k p' ∧ p'.bare = p ∧ p'.transmitter.2 = u.noted b k := by
  induction h with
  | begun h => exact ⟨_, .begun ⟨h.make_eq, h.context_ok⟩, rfl, rfl⟩
  | @next k p q p₁ c h ha hs ih =>
    obtain ⟨p', hdel, rfl, hnotes⟩ := ih
    obtain ⟨q', ha', rfl⟩ := ask_of_noting ha
    obtain ⟨p₁', hs', rfl⟩ := step_of_noting hs
    refine ⟨p₁', hdel.next ha' hs', rfl, ?_⟩
    obtain ⟨n, hn, rfl⟩ := step_delivered hs'
    obtain ⟨bytes, henc, -⟩ := send_eq_ok hn
    obtain ⟨hc, -⟩ := h.ask_chunk hb ha
    obtain ⟨-, -, htrans, -⟩ := ask_move ha'
    have hstate : (u.noting.send b c q'.context q'.transmitter).state.2 =
        q'.transmitter.2 ++ [(u.settings.transport.topic, bytes)] := send_notes henc
    rw [(delivered_eq u.noting _ c n).2.2.1]
    rw [noted_succ, buffer_eq (by rw [← henc, hc]; rfl), ← hnotes, ← htrans]
    exact hstate

/-! ## What was offered when a run is over -/

variable {p q : Progress σ}

theorem Delivered.offers_finished (hb : b.size < 2 ^ 63) (h : Delivered u b w k p)
    (ha : u.ask p = (q, .finished)) : offers u b w = u.noted b k := by
  obtain ⟨p', hdel, rfl, hnotes⟩ := h.notes_eq hb
  obtain ⟨q', ha', -⟩ := ask_of_noting ha
  unfold offers
  rw [(hdel.ends_finished hb ha').transmitter_eq, (ask_move ha').2.2.1, hnotes]

theorem Delivered.offers_interrupted (hb : b.size < 2 ^ 63) (h : Delivered u b w k p) {f : Fault}
    (ha : u.ask p = (q, .failed f)) : offers u b w = u.noted b k := by
  obtain ⟨p', hdel, rfl, hnotes⟩ := h.notes_eq hb
  obtain ⟨q', ha', -⟩ := ask_of_noting ha
  unfold offers
  rw [(hdel.ends_interrupted hb ha').transmitter_eq]
  show q'.transmitter.2 = u.noted b k
  rw [(ask_move ha').2.2.1, hnotes]

/-- The chunk that ends a run has been offered if it was encoded. -/
theorem Delivered.offers_failed (hb : b.size < 2 ^ 63) (h : Delivered u b w k p)
    (ha : u.ask p = (q, .chunk c)) {f : Fault}
    (hf : (u.send b c q.context q.transmitter).result = .error f) :
    offers u b w =
      match u.serializer.encode (u.messageAt b k) with
      | .error _ => u.noted b k
      | .ok _ => u.noted b (k + 1) := by
  obtain ⟨hc, -⟩ := h.ask_chunk hb ha
  obtain ⟨p', hdel, rfl, hnotes⟩ := h.notes_eq hb
  obtain ⟨q', ha', rfl⟩ := ask_of_noting ha
  have hf' : (u.noting.send b c q'.context q'.transmitter).result = .error f := by
    rw [← hf]
    show _ = (u.send b c q'.context q'.transmitter.1).result
    rw [send_noting]
  have hoffers : offers u b w = (u.noting.send b c q'.context q'.transmitter).state.2 := by
    unfold offers
    rw [(hdel.ends_failed hb ha' hf').transmitter_eq]
    rfl
  have hq : q'.transmitter.2 = u.noted b k := by rw [(ask_move ha').2.2.1, hnotes]
  rw [hoffers]
  cases henc : u.serializer.encode (u.messageAt b k) with
  | error f' => rw [send_notes_error (by rw [← henc, hc]; rfl), hq]
  | ok bytes => rw [send_notes (by rw [← henc, hc]; rfl), hq, noted_succ, buffer_eq henc]

end Run

end DetectorStream
