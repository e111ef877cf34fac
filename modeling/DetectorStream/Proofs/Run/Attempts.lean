import DetectorStream.Proofs.Delivery.Brokers
import DetectorStream.Proofs.Run.Course
import DetectorStream.Proofs.Wire.Received

/-!
# Attempts of a run

The controller numbers the chunks that it hands out, and a transmitter to a broker numbers the
messages that it delivers. Both begin at zero, and a run asks for the next chunk only when the last
one was delivered. So whatever fails on the way, the two numbers are the same: the broker is offered
the message of each chunk a few times in a row, and always under the number of the chunk.

* `run_keeps`: what every send keeps of the transmitter, a run keeps.
* `Attempts`: the attempts at one chunk follow those at the chunk before.
* **`Delivered.stands`**: after `k` deliveries the next number is `k`.
* **`run_attempts`**: what a run has offered, wherever it ends.
* `Attempts.consistent`: the number on an offer is that of its message.
* **`run_consistent`**: so it is in every run with retries.
* **`run_numbers_records`**: all of this for the transmitters to both brokers.
-/

namespace DetectorStream.Run

open Delivery (Numbering Offer Counted Policy Chance)

variable {σ : Type} {u : Setup σ} {b : Batch} {w : World σ} {p q : Progress σ} {c : Chunk} {k : Nat}

/-! ## What a run keeps -/

section

variable {Inv : σ → Prop}

theorem send_keeps (h : u.transmitter.Keeps Inv) (b : Batch) (c : Chunk) (ctx : Context) {s : σ}
    (hs : Inv s) : Inv (u.send b c ctx s).state := by
  unfold Setup.send
  split
  · exact hs
  · exact h _ _ _ _ hs

theorem step_keeps (h : u.transmitter.Keeps Inv) (b : Batch) (c : Chunk) (hp : Inv p.transmitter) :
    Inv (u.step b c p).1.transmitter := by
  have hsend := send_keeps h b c p.context hp
  rw [step_eq]
  split
  · exact hsend
  · rw [(delivered_eq u _ c _).2.2.1]
    exact hsend

theorem loop_keeps (h : u.transmitter.Keeps Inv) (b : Batch) (fuel : Nat)
    (hp : Inv p.transmitter) : Inv (loop u b fuel p).1.transmitter := by
  induction fuel generalizing p with
  | zero => exact hp
  | succ fuel ih =>
    unfold loop
    split
    · rename_i q ha
      rw [(ask_move ha).2.2.1]
      exact hp
    · rename_i q f ha
      show Inv q.transmitter
      rw [(ask_move ha).2.2.1]
      exact hp
    · rename_i q c ha
      have hq : Inv q.transmitter := by
        rw [(ask_move ha).2.2.1]
        exact hp
      have hstep := step_keeps h b c hq
      split
      · rename_i q' f hs
        rw [hs] at hstep
        exact hstep
      · rename_i q' hs
        rw [hs] at hstep
        exact ih hstep

theorem stream_keeps (h : u.transmitter.Keeps Inv) (b : Batch) (start : Int)
    (hp : Inv p.transmitter) : Inv (u.stream b start p).1.transmitter := by
  unfold Setup.stream
  split
  · exact hp
  · have hloop :=
      loop_keeps h b (p.flow.passes * Chunk.perPass p.flow.total p.flow.chunkSize + 1) hp
    split
    · rename_i q f hl
      rw [hl] at hloop
      exact hloop
    · rename_i q hl
      rw [hl] at hloop
      exact hloop

/-- **What every send keeps of the transmitter, a run keeps.** -/
theorem run_keeps (h : u.transmitter.Keeps Inv) (b : Batch) (hw : Inv w.transmitter) :
    Inv (run u b w).world.transmitter := by
  unfold run
  simp only
  split
  · exact hw
  · exact stream_keeps h b _ hw

end

/-! ## The attempts at each chunk -/

/-- **The offers of a run that has tried `n` chunks**: the attempts at one chunk follow those at the
chunk before, `most` of them at the most, and each has the number of the chunk and its message. -/
inductive Attempts (u : Setup σ) (b : Batch) (most : Nat) : Nat → List Offer → Prop
  | none : Attempts u b most 0 []
  | next {k : Nat} {offers tries : List Offer} (h : Attempts u b most k offers)
      (length_le : tries.length ≤ most)
      (carry : ∀ o ∈ tries, o.Numbered k ∧
        u.serializer.encode (u.messageAt b k) = .ok o.message) :
      Attempts u b most (k + 1) (offers ++ tries)

variable {v : Numbering σ} {most : Nat} {s : σ} {offers : List Offer}

/-- The transmitter stands before message number `k`. -/
structure Stands (u : Setup σ) (b : Batch) (v : Numbering σ) (most k : Nat) (s : σ) : Prop where
  plain : v.plain s
  seq_eq : v.seq s = k
  attempts : Attempts u b most k (v.offered s)

/-- The transmitter has not sent anything yet. -/
structure Fresh (v : Numbering σ) (s : σ) : Prop where
  plain : v.plain s
  seq_eq : v.seq s = 0
  offered_eq : v.offered s = []

theorem Fresh.stands (h : Fresh v s) : Stands u b v most 0 s :=
  ⟨h.plain, h.seq_eq, h.offered_eq ▸ .none⟩

/-- A send adds the attempts at its chunk; if it succeeds, the next chunk is next. -/
theorem Stands.send (hu : u.transmitter.Numbers v most) (h : Stands u b v most k s)
    (ctx : Context) :
    (∃ n, Attempts u b most n (v.offered (u.send b (u.chunk b k) ctx s).state)) ∧
      ∀ n, (u.send b (u.chunk b k) ctx s).result = .ok n →
        Stands u b v most (k + 1) (u.send b (u.chunk b k) ctx s).state := by
  cases henc : u.serializer.encode (u.messageAt b k) with
  | error f =>
    have hsend : u.send b (u.chunk b k) ctx s = ⟨s, ctx, .error f, []⟩ := by
      unfold Setup.send
      rw [show u.serializer.encode (message _ b (u.chunk b k)) = _ from henc]
    rw [hsend]
    exact ⟨⟨k, h.attempts⟩, nofun⟩
  | ok bytes =>
    obtain ⟨hplain, hseq, tries, hoffered, hlength, hcarry⟩ :=
      hu ctx u.settings.transport.topic bytes s h.plain
    have hstate : (u.send b (u.chunk b k) ctx s).state =
        (u.transmitter ctx u.settings.transport.topic bytes s).state := by
      unfold Setup.send
      rw [show u.serializer.encode (message _ b (u.chunk b k)) = _ from henc]
    have hattempts : Attempts u b most (k + 1)
        (v.offered (u.transmitter ctx u.settings.transport.topic bytes s).state) := by
      rw [hoffered]
      refine h.attempts.next hlength fun o ho => ?_
      obtain ⟨hnumber, hmessage⟩ := hcarry o ho
      rw [h.seq_eq] at hnumber
      exact ⟨hnumber, by rw [henc, hmessage]⟩
    rw [hstate]
    refine ⟨⟨k + 1, hattempts⟩, fun n hn => ⟨hplain, ?_, hattempts⟩⟩
    obtain ⟨bytes', henc', -, hfault⟩ := send_eq_ok hn
    have hsame : bytes' = bytes := Except.ok.inj (henc'.symm.trans henc)
    rw [hsame] at hfault
    rw [hseq, h.seq_eq, hfault]
    rfl

/-- **After `k` deliveries the next number is `k`**, and the broker was offered the first `k`
chunks. -/
theorem Delivered.stands (hb : b.size < 2 ^ 63) (hu : u.transmitter.Numbers v most)
    (hw : Fresh v w.transmitter) (h : Delivered u b w k p) : Stands u b v most k p.transmitter := by
  induction h with
  | begun h => exact hw.stands
  | next h ha hs ih =>
    obtain ⟨n, hn, rfl⟩ := step_delivered hs
    obtain ⟨rfl, -⟩ := h.ask_chunk hb ha
    rw [← (ask_move ha).2.2.1] at ih
    rw [(delivered_eq u _ _ n).2.2.1]
    exact (ih.send hu _).2 n hn

/-- **What a run has offered, wherever it ends.** -/
theorem run_attempts (hb : b.size < 2 ^ 63) (hu : u.transmitter.Numbers v most)
    (hw : Fresh v w.transmitter) :
    ∃ n, Attempts u b most n (v.offered (run u b w).world.transmitter) := by
  by_cases hbegins : ∃ flow, Begins u b w flow
  · obtain ⟨flow, hbegin⟩ := hbegins
    obtain ⟨k, p, q, h, hend⟩ := exists_end hb hbegin
    have hstands := h.stands hb hu hw
    rcases hend with ha | ⟨f, ha⟩ | ⟨c, f, ha, hf⟩
    · rw [(h.ends_finished hb ha).transmitter_eq, (ask_move ha).2.2.1]
      exact ⟨k, hstands.attempts⟩
    · rw [(h.ends_interrupted hb ha).transmitter_eq]
      show ∃ n, Attempts u b most n (v.offered q.transmitter)
      rw [(ask_move ha).2.2.1]
      exact ⟨k, hstands.attempts⟩
    · obtain ⟨rfl, -⟩ := h.ask_chunk hb ha
      rw [(h.ends_failed hb ha hf).transmitter_eq]
      rw [← (ask_move ha).2.2.1] at hstands
      exact (hstands.send hu q.context).1
  · rw [(unbegun hbegins).transmitter_eq]
    exact ⟨0, hw.stands.attempts⟩

/-! ## Numbers and messages -/

/-- Every offer has the number and the message of one chunk. -/
theorem Attempts.mem {n : Nat} (h : Attempts u b most n offers) {o : Offer} (ho : o ∈ offers) :
    ∃ k < n, o.Numbered k ∧ u.serializer.encode (u.messageAt b k) = .ok o.message := by
  induction h with
  | none => cases ho
  | next h hlength hcarry ih =>
    rcases List.mem_append.mp ho with ho | ho
    · obtain ⟨k, hk, hfound⟩ := ih ho
      exact ⟨k, Nat.lt_succ_of_lt hk, hfound⟩
    · exact ⟨_, Nat.lt_succ_self _, hcarry o ho⟩

/-- **The numbers on the offers of a run are those of its messages.** -/
structure Consistent (u : Setup σ) (b : Batch) (most : Nat) (offers : List Offer) : Prop where
  attempts : ∃ n, Attempts u b most n offers
  message_id : ∀ o ∈ offers, ∃ k m, o.Numbered k ∧ u.serializer.encode m = .ok o.message ∧
    m.id = k.toUInt64
  decoded_id : ∀ format, u.serializer = .ofFormat format → ∀ o ∈ offers,
    ∃ k m, o.Numbered k ∧ format.decode o.message = .ok m ∧ m.id = k.toUInt64
  same_message : ∀ o ∈ offers, ∀ o' ∈ offers, ∀ k, o.Numbered k → o'.Numbered k →
    o.message = o'.message

theorem Attempts.consistent {n : Nat} (h : Attempts u b most n offers) :
    Consistent u b most offers := by
  refine ⟨⟨n, h⟩, fun o ho => ?_, fun format hformat o ho => ?_, fun o ho o' ho' k hk hk' => ?_⟩
  · obtain ⟨k, -, hnumber, henc⟩ := h.mem ho
    exact ⟨k, _, hnumber, henc, messageAt_id u b k⟩
  · obtain ⟨k, -, hnumber, henc⟩ := h.mem ho
    rw [hformat] at henc
    refine ⟨k, _, hnumber, Format.decode_eq_received henc, ?_⟩
    rw [Format.received_id, messageAt_id]
  · obtain ⟨i, -, hi, henc⟩ := h.mem ho
    obtain ⟨j, -, hj, henc'⟩ := h.mem ho'
    have hsame : i = j := (hi.unique hk).trans (hk'.unique hj)
    rw [← hsame] at henc'
    exact Except.ok.inj (henc.symm.trans henc')

/-- **A run over a transmitter that numbers its messages, with retries**: the numbers are those of
the messages, wherever the run ends. -/
theorem run_consistent {t : Delivery.Transmitter σ} {policy : Policy} {chance : Nat → Chance}
    (ht : t.Numbers v 1) (hu : u.transmitter = t.withRetry policy chance) (hb : b.size < 2 ^ 63)
    (hw : Fresh v w.transmitter) :
    Consistent u b (max policy.attempts 1) (v.offered (run u b w).world.transmitter) := by
  have hretry : u.transmitter.Numbers v (max policy.attempts 1) := by
    rw [hu]
    exact ht.withRetry policy chance
  obtain ⟨n, hattempts⟩ := run_attempts hb hretry hw
  exact hattempts.consistent

/-! ## Both brokers -/

open Delivery in
/-- **Numbers and messages agree, whatever a broker answers.** Every record that is offered has the
number of the sends that have succeeded before it. So in a run with retries it has the number of its
message: the records of one chunk follow each other, as many as the policy allows at the most, equal
numbers mean equal messages, and the records that the producer took are numbered from zero. The
answers of a connection are among those of a client. Behind the closing of a transmitter nothing
reaches the producer, which is closed once. -/
theorem run_numbers_records :
    (∀ (produce : Nat → Option Fault) (spans : Kafka.State → List (Text × Text))
        (cut : Kafka.State → Context → Context),
      (∀ s : Kafka.State, s.label.Plain → (s.label.traced (spans s)).Plain) →
      (Kafka.amid produce spans cut).CountsCalls Kafka.numbering 1 ∧
      ∀ (u : Setup Kafka.State) (b : Batch) (w : World Kafka.State) (p : Policy)
          (chance : Nat → Chance),
        u.transmitter = (Kafka.amid produce spans cut).withRetry p chance → b.size < 2 ^ 63 →
        Fresh Kafka.numbering w.transmitter →
        let s := (run u b w).world.transmitter
        Consistent u b (max p.attempts 1) (Kafka.numbering.offered s) ∧
          Counted ((s.accepted produce).map Kafka.Record.offer)) ∧
    (∀ (answers : Nats.Answers) (spans : Nats.Tried → List (Text × Text))
        (cut : Nats.Tried → Context → Context),
      (∀ s : Nats.Tried, s.1.label.Plain → (s.1.label.traced (spans s)).Plain) →
      (Nats.amid answers spans cut).CountsCalls Nats.numbering 1 ∧
      ∀ (u : Setup Nats.Tried) (b : Batch) (w : World Nats.Tried) (p : Policy)
          (chance : Nat → Chance),
        u.transmitter = (Nats.amid answers spans cut).withRetry p chance → b.size < 2 ^ 63 →
        Fresh Nats.numbering w.transmitter →
        Consistent u b (max p.attempts 1)
          (Nats.numbering.offered (run u b w).world.transmitter)) ∧
    (∀ ctx subject data (s : Nats.Tried),
      let o := Nats.answered Nats.connected ctx subject data s
      Nats.send ctx subject data s.1 = ⟨o.state.1, o.context, o.fault, o.entries⟩) ∧
    (∀ (produce : Nat → Option Fault) (s : Kafka.State), s.closed = false →
      ∀ (calls : List Call) (answer : Option Fault) (later : List Kafka.Act),
        Kafka.ClosedOnce produce s calls answer later) := by
  refine ⟨fun produce spans cut hspans => ?_, fun answers spans cut hspans => ?_,
    Nats.send_eq_answered, fun produce s h calls answer later => Kafka.closedOnce h calls answer later⟩
  · have hnumbers := Kafka.amid_numbers produce cut hspans
    refine ⟨hnumbers.countsCalls, fun u b w p chance hu hb hw => ?_⟩
    have hkeeps : u.transmitter.Keeps (Kafka.Accepts produce) := by
      rw [hu]
      exact (Kafka.amid_accepts produce cut hspans).withRetry p chance
    have haccepts : Kafka.Accepts produce w.transmitter :=
      .fresh hw.plain hw.seq_eq hw.offered_eq
    exact ⟨run_consistent hnumbers hu hb hw, (run_keeps hkeeps b haccepts).counted⟩
  · have hnumbers := Nats.amid_numbers answers cut hspans
    exact ⟨hnumbers.countsCalls, fun u b w p chance hu hb hw =>
      run_consistent hnumbers hu hb hw⟩

/-- A run that sends messages of two events, up to three times each. -/
def retrying (t : Delivery.Transmitter σ) : Setup σ where
  settings := { transport := { topic := "events" }, flow := { eventsPerMessage := 2 } }
  serializer := ⟨"ids", fun m => .ok (m.columns.ids.map fun i => i.toUInt64.toUInt8)⟩
  transmitter := t.withRetry ⟨3, 0, 0⟩ fun _ => {}
  runId := "retrying"

/-- A producer that has no leader for the second record. -/
def leaderless : Nat → Option Fault :=
  fun n => if n = 1 then some (.signal (.kafkaCode 5)) else none

/-- A client that publishes the second message and does not learn whether it has arrived. -/
def unconfirmed : Delivery.Nats.Answers :=
  fun s _ _ => (none, if s.2.length = 1 then some (.signal .natsTimeout) else none)

open Delivery in
/-- The second of two messages is sent again: it is offered twice under its number, to either
broker. -/
theorem run_numbers_records_retrying :
    let b := Batch.live #[⟨1, 10⟩, ⟨2, 20⟩, ⟨3, 30⟩]
    let kafka := (run (retrying (Kafka.amid leaderless (fun s => s.label.trace) fun _ ctx => ctx)) b
      { clock := ⟨0, 1⟩, transmitter := { key := "key", label := ⟨"run", "ids", []⟩ } }).world
    let nats := (run
      (retrying (Nats.amid unconfirmed (fun s => s.1.label.trace) fun _ ctx => ctx)) b
      { clock := ⟨0, 1⟩, transmitter := (⟨{}, ⟨"run", "ids", []⟩, 0, []⟩, []) }).world
    let records := Kafka.numbering.offered kafka.transmitter
    let publications := Nats.numbering.offered nats.transmitter
    (records.map fun o => (o.headers.lookup (Text.ofString "seq"), o.message)) =
        [(some (Text.ofString "0"), [1, 2]), (some (Text.ofString "1"), [3]),
          (some (Text.ofString "1"), [3])] ∧
      Counted ((kafka.transmitter.accepted leaderless).map Kafka.Record.offer) ∧
      publications.map Offer.message = [[1, 2], [3], [3]] ∧
      ∀ o ∈ publications, ∃ (k : Nat) (m : Message), o.Numbered k ∧
        (m.columns.ids.map fun i => i.toUInt64.toUInt8) = o.message ∧ m.id = k.toUInt64 := by
  intro b kafka nats records publications
  obtain ⟨hkafka, hnats, -⟩ := run_numbers_records
  have hplain : (⟨Text.ofString "run", Text.ofString "ids", []⟩ : Label).Plain := fun _ => nofun
  obtain ⟨-, hrun⟩ := hkafka leaderless (fun s => s.label.trace) (fun _ ctx => ctx) fun _ h => h
  obtain ⟨-, hcounted⟩ := hrun (retrying _) b
    { clock := ⟨0, 1⟩, transmitter := { key := "key", label := ⟨"run", "ids", []⟩ } } ⟨3, 0, 0⟩
    (fun _ => {}) rfl (by decide) ⟨hplain, rfl, rfl⟩
  obtain ⟨-, hrun'⟩ := hnats unconfirmed (fun s => s.1.label.trace) (fun _ ctx => ctx) fun _ h => h
  have hconsistent := hrun' (retrying _) b
    { clock := ⟨0, 1⟩, transmitter := (⟨{}, ⟨"run", "ids", []⟩, 0, []⟩, []) } ⟨3, 0, 0⟩
    (fun _ => {}) rfl (by decide) ⟨hplain, rfl, rfl⟩
  refine ⟨by decide +kernel, hcounted, by decide +kernel, fun o ho => ?_⟩
  obtain ⟨k, m, hnumber, henc, hid⟩ := hconsistent.message_id o ho
  exact ⟨k, m, hnumber, Except.ok.inj henc, hid⟩

end DetectorStream.Run
