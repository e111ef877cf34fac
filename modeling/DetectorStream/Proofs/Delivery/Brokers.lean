import DetectorStream.Delivery.Kafka.Transmitter
import DetectorStream.Delivery.Nats
import DetectorStream.Proofs.Delivery.Numbering

/-!
# What brokers are offered

The transmitters to both brokers number their messages, whatever the broker answers: a producer that
does not take a record, a client that does not publish, a flush that fails behind a message that has
arrived. Headers change from one span to the next, and contexts are cancelled, without a difference.

* `Kafka.send_numbers`, `Kafka.amid_numbers`: records are numbered.
* **`Kafka.Accepts.send`**, `Kafka.amid_accepts`: those that the producer took are numbered from
  zero.
* **`Kafka.closedOnce`**: the closing is the last request to a producer, and is made once.
* `Nats.answered`, `Nats.send_eq_answered`: a client with any answers, and that of a connection.
* `Nats.answered_numbers`, `Nats.amid_numbers`: publications are numbered.
-/

namespace DetectorStream.Delivery

/-- A label with the headers of another span. -/
def Label.traced (l : Label) (trace : List (Text × Text)) : Label := { l with trace := trace }

namespace Kafka

variable {produce : Nat → Option Fault} {s : State} {ctx : Context} {topic : Text} {message : Bytes}

/-- A record as an offer. -/
def Record.offer (r : Record) : Offer := ⟨r.headers, r.value⟩

/-- How records are numbered. -/
def numbering : Numbering State where
  seq := State.seq
  offered s := s.offered.map Record.offer
  plain s := s.label.Plain

@[simp] theorem offered_ask_record (s : State) (r : Record) :
    (s.ask (.record r)).offered = s.offered ++ [r] := by
  simp [State.offered, State.ask, Request.record?]

/-- The record of a message has the number of the messages that were accepted. -/
theorem record_numbered (hs : s.label.Plain) (topic : Text) (message : Bytes) :
    (s.record topic message).offer.Numbered s.seq :=
  hs.headers s.seq

/-- **A send offers nothing and fails, or offers the record of its message** and fails or succeeds
as the broker answers. -/
theorem send_cases (produce : Nat → Option Fault) (ctx : Context) (topic : Text) (message : Bytes)
    (s : State) :
    let o := send produce ctx topic message s
    let tried := s.ask (.record (s.record topic message))
    (o.state = s ∧ o.fault.isNone = false) ∨
      (s.closed = false ∧ ∃ f, produce s.offered.length = some f ∧ o.state = tried ∧
        o.fault.isNone = false) ∨
      (s.closed = false ∧ produce s.offered.length = none ∧
        o.state = { tried with seq := s.seq + 1 } ∧ o.fault.isNone = true) := by
  intro o tried
  have ho : o = _ := send.eq_def produce ctx topic message s
  simp only at ho
  split at ho
  · rw [ho]
    exact .inl ⟨rfl, rfl⟩
  · rename_i hclosed
    have hopen : s.closed = false := Bool.eq_false_iff.mpr hclosed
    split at ho
    · rw [ho]
      exact .inl ⟨rfl, rfl⟩
    · split at ho
      · rename_i f hproduce
        rw [ho]
        exact .inr (.inl ⟨hopen, f, hproduce, rfl, rfl⟩)
      · rename_i hproduce
        rw [ho]
        exact .inr (.inr ⟨hopen, hproduce, rfl, rfl⟩)

theorem send_numbers (produce : Nat → Option Fault) : (send produce).Numbers numbering 1 := by
  intro ctx topic message s hs
  have hone : numbering.offered (s.ask (.record (s.record topic message))) =
      numbering.offered s ++ [(s.record topic message).offer] := by
    simp [numbering]
  have hcarry : ∀ o ∈ [(s.record topic message).offer],
      o.Numbered s.seq ∧ o.message = message := by
    intro o ho
    rw [List.mem_singleton.mp ho]
    exact ⟨record_numbered hs topic message, rfl⟩
  rcases send_cases produce ctx topic message s with
    ⟨hstate, hfault⟩ | ⟨-, f, -, hstate, hfault⟩ | ⟨-, -, hstate, hfault⟩
  · rw [hstate, hfault]
    exact ⟨hs, rfl, [], (List.append_nil _).symm, by simp, by simp⟩
  · rw [hstate, hfault]
    exact ⟨hs, rfl, _, hone, by simp, hcarry⟩
  · rw [hstate, hfault]
    exact ⟨hs, rfl, _, hone, by simp, hcarry⟩

/-- The transmitter amid what goes on around it: every send has the headers of its span, and its
context may be cancelled. -/
def amid (produce : Nat → Option Fault) (spans : State → List (Text × Text))
    (cut : State → Context → Context) : Transmitter State :=
  (send produce).amid (fun s => { s with label := s.label.traced (spans s) }) cut

theorem amid_numbers (produce : Nat → Option Fault) {spans : State → List (Text × Text)}
    (cut : State → Context → Context)
    (hspans : ∀ s : State, s.label.Plain → (s.label.traced (spans s)).Plain) :
    (amid produce spans cut).Numbers numbering 1 :=
  (send_numbers produce).amid cut hspans (fun _ => rfl) (fun _ => rfl)

/-! ## Records that are accepted -/

/-- The records that the producer took. -/
def State.accepted (produce : Nat → Option Fault) (s : State) : List Record :=
  (s.offered.zipIdx.filter fun r => (produce r.2).isNone).map Prod.fst

/-- **The records that were accepted are numbered from zero**, as many as were counted. -/
structure Accepts (produce : Nat → Option Fault) (s : State) : Prop where
  plain : s.label.Plain
  length_eq : (s.accepted produce).length = s.seq
  counted : Counted ((s.accepted produce).map Record.offer)

/-- Nothing was accepted before anything was offered. -/
theorem Accepts.fresh (hplain : s.label.Plain) (hseq : s.seq = 0)
    (hoffered : numbering.offered s = []) : Accepts produce s := by
  have hnone : s.accepted produce = [] := by
    unfold State.accepted
    rw [List.map_eq_nil_iff.mp hoffered]
    rfl
  exact ⟨hplain, by rw [hnone, hseq]; rfl, by rw [hnone]; exact .nil⟩

/-- One more record is accepted if the producer takes it. -/
theorem accepted_concat (produce : Nat → Option Fault) (s : State) (r : Record) :
    (s.ask (.record r)).accepted produce =
      s.accepted produce ++ if (produce s.offered.length).isNone then [r] else [] := by
  unfold State.accepted
  rw [offered_ask_record, List.zipIdx_append, List.filter_append, List.map_append]
  simp only [List.zipIdx_cons, List.zipIdx_nil, Nat.zero_add, List.filter_cons, List.filter_nil]
  split <;> rfl

theorem Accepts.send (h : Accepts produce s) (ctx : Context) (topic : Text) (message : Bytes) :
    Accepts produce (send produce ctx topic message s).state := by
  have hconcat := accepted_concat produce s (s.record topic message)
  rcases send_cases produce ctx topic message s with
    ⟨hstate, -⟩ | ⟨-, f, hproduce, hstate, -⟩ | ⟨-, hproduce, hstate, -⟩
  · rw [hstate]
    exact h
  · rw [hproduce, Option.isNone_some, if_neg Bool.false_ne_true, List.append_nil] at hconcat
    rw [hstate]
    exact ⟨h.plain, by rw [hconcat, h.length_eq]; rfl, by rw [hconcat]; exact h.counted⟩
  · rw [hproduce, Option.isNone_none, if_pos rfl] at hconcat
    have hconcat' : State.accepted produce
        { s.ask (.record (s.record topic message)) with seq := s.seq + 1 } =
          s.accepted produce ++ [s.record topic message] := hconcat
    rw [hstate]
    refine ⟨h.plain, ?_, ?_⟩
    · rw [hconcat', List.length_append, h.length_eq]
      rfl
    · rw [hconcat', List.map_append]
      refine h.counted.concat ?_
      rw [List.length_map, h.length_eq]
      exact record_numbered h.plain topic message

theorem amid_accepts (produce : Nat → Option Fault) {spans : State → List (Text × Text)}
    (cut : State → Context → Context)
    (hspans : ∀ s : State, s.label.Plain → (s.label.traced (spans s)).Plain) :
    (amid produce spans cut).Keeps (Accepts produce) := by
  intro ctx topic message s h
  have htraced : Accepts produce { s with label := s.label.traced (spans s) } :=
    ⟨hspans s h.plain, h.length_eq, h.counted⟩
  exact htraced.send ctx topic message

/-! ## Closing -/

/-- What a caller does with a transmitter. -/
inductive Act
  | send (c : Call)
  /-- The producer is going to answer the closing like this. -/
  | close (answer : Option Fault)

/-- The state after an act, and why the act fails, if it does. -/
def act (produce : Nat → Option Fault) : Act → State → State × Option Fault
  | .send c, s =>
    let o := send produce c.context c.topic c.message s
    (o.state, o.fault)
  | .close answer, s => close answer s

/-- The state after some acts, whatever comes of them. -/
def after (produce : Nat → Option Fault) (acts : List Act) (s : State) : State :=
  acts.foldl (fun s a => (act produce a s).1) s

theorem after_append (produce : Nat → Option Fault) (acts later : List Act) (s : State) :
    after produce (acts ++ later) s = after produce later (after produce acts s) :=
  List.foldl_append

/-- **What comes of an act on a closed transmitter**: nothing is asked of the producer, a send fails
and a closing does not. -/
theorem act_closed (h : s.closed = true) (a : Act) : (act produce a s).1 = s ∧
    (act produce a s).2 = match a with
      | .send _ => some closedFault
      | .close _ => none := by
  cases a with
  | send c => simp [act, send, h]
  | close answer => simp [act, close, h]

theorem after_closed (h : s.closed = true) (acts : List Act) : after produce acts s = s := by
  induction acts with
  | nil => rfl
  | cons a acts ih =>
    show after produce acts (act produce a s).1 = s
    rw [(act_closed h a).1, ih]

/-- A send through an open transmitter asks for a record at most, and leaves it open. -/
theorem act_send (produce : Nat → Option Fault) (h : s.closed = false) (c : Call) :
    (act produce (.send c) s).1.closed = false ∧ ∃ records : List Record,
      (act produce (.send c) s).1.requests = s.requests ++ records.map .record := by
  simp only [act]
  rcases send_cases produce c.context c.topic c.message s with
    ⟨hstate, -⟩ | ⟨-, f, -, hstate, -⟩ | ⟨-, -, hstate, -⟩
  · rw [hstate]
    exact ⟨h, [], (List.append_nil _).symm⟩
  · rw [hstate]
    exact ⟨h, [s.record c.topic c.message], rfl⟩
  · rw [hstate]
    exact ⟨h, [s.record c.topic c.message], rfl⟩

/-- So do many of them. -/
theorem after_sends (produce : Nat → Option Fault) (h : s.closed = false) (calls : List Call) :
    (after produce (calls.map .send) s).closed = false ∧ ∃ records : List Record,
      (after produce (calls.map .send) s).requests = s.requests ++ records.map .record := by
  induction calls generalizing s with
  | nil => exact ⟨h, [], (List.append_nil _).symm⟩
  | cons c calls ih =>
    obtain ⟨hopen, new, hnew⟩ := act_send produce h c
    obtain ⟨hafter, records, hrecords⟩ := ih hopen
    refine ⟨hafter, new ++ records, ?_⟩
    show (after produce (calls.map .send) (act produce (.send c) s).1).requests = _
    rw [hrecords, hnew, List.map_append, List.append_assoc]

/-- The closing of an open transmitter asks the producer to close, and fails as the producer says. -/
theorem act_close (produce : Nat → Option Fault) (h : s.closed = false) (answer : Option Fault) :
    (act produce (.close answer) s).1 = { s.ask .close with closed := true } ∧
      (act produce (.close answer) s).2 =
        answer.map (Fault.wrap .transmission "failed to close kafka producer") := by
  simp [act, close, h]

/-- **What a producer is asked to do by a history with a closing in it**: to send the records of the
sends before it, to close, and nothing more. -/
structure ClosedOnce (produce : Nat → Option Fault) (s : State) (calls : List Call)
    (answer : Option Fault) (later : List Act) : Prop where
  requests_eq : ∃ records : List Record,
    (after produce (calls.map .send) s).requests = s.requests ++ records.map .record ∧
    (after produce (calls.map .send ++ .close answer :: later) s).requests =
      s.requests ++ records.map .record ++ [.close]
  /-- The closing fails as the producer says. -/
  closing : (act produce (.close answer) (after produce (calls.map .send) s)).2 =
    answer.map (Fault.wrap .transmission "failed to close kafka producer")
  /-- A send fails behind it, and another closing does nothing. -/
  behind a : (act produce a (after produce (calls.map .send ++ .close answer :: later) s)).2 =
    match a with
    | .send _ => some closedFault
    | .close _ => none

/-- **The closing is the last thing that a producer is asked for, and is asked for once**, whatever
the callers do before it and after it. -/
theorem closedOnce (h : s.closed = false) (calls : List Call) (answer : Option Fault)
    (later : List Act) : ClosedOnce produce s calls answer later := by
  obtain ⟨hopen, records, hrecords⟩ := after_sends produce h calls
  obtain ⟨hclose, hanswer⟩ := act_close produce hopen answer
  have hclosed : (act produce (.close answer) (after produce (calls.map .send) s)).1.closed = true := by
    rw [hclose]
  have hafter : after produce (calls.map .send ++ .close answer :: later) s =
      { (after produce (calls.map .send) s).ask .close with closed := true } := by
    rw [after_append, ← hclose]
    exact after_closed hclosed later
  refine ⟨⟨records, hrecords, ?_⟩, hanswer, fun a => ?_⟩
  · rw [hafter, ← hrecords]
    rfl
  · exact (act_closed (by rw [hafter]) a).2

end Kafka

namespace Nats

variable {ctx : Context} {subject : Text} {data : Bytes}

/-- A publication as an offer. -/
def Publication.offer (p : Publication) : Offer := ⟨p.headers, p.data⟩

/-- A transmitter together with everything that it has offered to its client. -/
abbrev Tried := State × List Publication

/-- How a client answers a message: to the publication and to the flush. -/
abbrev Answers := Tried → Text → Bytes → Option Fault × Option Fault

/-- The answers of the connection. -/
def connected : Answers := fun s subject data =>
  (s.1.connection.refusal? subject s.1.headers data, s.1.connection.flush?)

/-- Send a message on a subject through a client that answers in any way. -/
def answered (answers : Answers) : Transmitter Tried := fun ctx subject data s =>
  match cancelled? ctx with
  | some f => ⟨s, ctx, some f, []⟩
  | none =>
    let a := answers s subject data
    let r := deliver a.1 a.2 subject data s.1
    ⟨(r.1, s.2 ++ [⟨subject, s.1.headers, data⟩]), ctx, r.2, []⟩

/-- With the answers of the connection it is the transmitter itself. -/
theorem send_eq_answered (ctx : Context) (subject : Text) (data : Bytes) (s : Tried) :
    send ctx subject data s.1 =
      let o := answered connected ctx subject data s
      ⟨o.state.1, o.context, o.fault, o.entries⟩ := by
  unfold send answered
  cases cancelled? ctx with
  | some f => rfl
  | none => rfl

/-! ## Headers of publications -/

theorem trim_of_forall {p : UInt8 → Bool} {t : Text} (h : ∀ b ∈ t, p b = false) :
    Text.trim p t = t := by
  have hdrop : ∀ l : Text, (∀ b ∈ l, p b = false) → l.dropWhile p = l := by
    intro l hl
    cases l with
    | nil => rfl
    | cons b l => rw [List.dropWhile_cons_of_neg (by simp [hl b List.mem_cons_self])]
  unfold Text.trim
  rw [hdrop t h, hdrop t.reverse fun b hb => h b (List.mem_reverse.mp hb), List.reverse_reverse]

theorem not_blank_of_isDigit {b : UInt8} (hb : Text.isDigit b = true) :
    (b == 0x0A || b == 0x0D) = false ∧ (b == 0x20 || b == 0x09) = false := by
  have hne : ∀ c : UInt8, Text.isDigit c = false → b ≠ c := by
    rintro c hc rfl
    rw [hb] at hc
    cases hc
  simp [hne 0x0A rfl, hne 0x0D rfl, hne 0x20 rfl, hne 0x09 rfl]

/-- A number travels as it is written. -/
theorem headerValue_ofNat (n : Nat) : headerValue (Decimal.ofNat n) = Decimal.ofNat n := by
  have hdigits := Decimal.isDigit_of_mem_ofNat n
  have hmap : (Decimal.ofNat n).map (fun b => if b == 0x0A || b == 0x0D then 0x20 else b) =
      Decimal.ofNat n := by
    refine (List.map_congr_left fun b hb => ?_).trans (List.map_id _)
    rw [(not_blank_of_isDigit (hdigits b hb)).1]
    rfl
  unfold headerValue
  rw [hmap]
  exact trim_of_forall fun b hb => (not_blank_of_isDigit (hdigits b hb)).2

/-- A publication has the number of the messages that were published and flushed. -/
theorem headers_numbered {s : State} (hs : s.label.Plain) (subject : Text) (data : Bytes) :
    (Publication.mk subject s.headers data).offer.Numbered s.seq := by
  intro v
  show (Text.ofString "seq", v) ∈ s.headers ↔ v = Decimal.ofNat s.seq
  unfold State.headers
  rw [List.mem_mergeSort, List.mem_map]
  constructor
  · rintro ⟨⟨k, w⟩, hmem, heq⟩
    cases heq
    rw [(hs.headers s.seq w).mp hmem, headerValue_ofNat]
  · rintro rfl
    exact ⟨(Text.ofString "seq", Decimal.ofNat s.seq), (hs.headers s.seq _).mpr rfl,
      congrArg (Prod.mk _) (headerValue_ofNat s.seq)⟩

/-! ## Publications are numbered -/

/-- How publications are numbered. -/
def numbering : Numbering Tried where
  seq s := s.1.seq
  offered s := s.2.map Publication.offer
  plain s := s.1.label.Plain

/-- A delivery leaves the label as it is, and counts if it succeeds. -/
theorem deliver_eq (publish flush : Option Fault) (subject : Text) (data : Bytes) (s : State) :
    (deliver publish flush subject data s).1.label = s.label ∧
      (deliver publish flush subject data s).1.seq =
        s.seq + (deliver publish flush subject data s).2.isNone.toNat := by
  unfold deliver
  cases publish with
  | some f => exact ⟨rfl, rfl⟩
  | none =>
    cases flush with
    | some f => exact ⟨rfl, rfl⟩
    | none => exact ⟨rfl, rfl⟩

theorem answered_numbers (answers : Answers) : (answered answers).Numbers numbering 1 := by
  intro ctx subject data s hs
  unfold answered
  cases cancelled? ctx with
  | some f => exact ⟨hs, rfl, [], (List.append_nil _).symm, by simp, by simp⟩
  | none =>
    let a := answers s subject data
    obtain ⟨hlabel, hseq⟩ := deliver_eq a.1 a.2 subject data s.1
    refine ⟨?_, hseq, [(Publication.mk subject s.1.headers data).offer], List.map_append, by simp,
      ?_⟩
    · show (deliver a.1 a.2 subject data s.1).1.label.Plain
      rw [hlabel]
      exact hs
    · intro o ho
      rw [List.mem_singleton.mp ho]
      exact ⟨headers_numbered hs subject data, rfl⟩

/-- The transmitter amid what goes on around it: every send has the headers of its span, and its
context may be cancelled. -/
def amid (answers : Answers) (spans : Tried → List (Text × Text))
    (cut : Tried → Context → Context) : Transmitter Tried :=
  (answered answers).amid (fun s => ({ s.1 with label := s.1.label.traced (spans s) }, s.2)) cut

theorem amid_numbers (answers : Answers) {spans : Tried → List (Text × Text)}
    (cut : Tried → Context → Context)
    (hspans : ∀ s : Tried, s.1.label.Plain → (s.1.label.traced (spans s)).Plain) :
    (amid answers spans cut).Numbers numbering 1 :=
  (answered_numbers answers).amid cut hspans (fun _ => rfl) (fun _ => rfl)

end Nats

end DetectorStream.Delivery
