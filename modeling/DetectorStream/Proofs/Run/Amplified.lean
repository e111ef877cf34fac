import DetectorStream.Proofs.Batch.Tiling
import DetectorStream.Proofs.Run.Complete
import DetectorStream.Proofs.Wire.Received

/-!
# Copies and passes

A stream is made longer in two ways: by copies of the events within the batch, and by passes over
the batch. The messages are cut at different places, but as long as the copies are not moved in
time, what is sent in all of them together is the same.

* `eventsSent`: the events that are read off what a run offers.
* `Through`: a run that goes through and whose messages can be read.
* `Undisturbed.through`: a run that nothing disturbs goes through.
* **`Through.eventsSent_eq`**: such a run sends the events of its batch, once for each pass.
* **`amplified_sends_repeated`**: copies are as good as passes.
-/

namespace DetectorStream.Run

open Chunk (perPass)

variable {σ τ : Type} {u : Setup σ} {b : Batch} {w : World σ} {k : Nat}
  {read : Bytes → Option Columns}

/-- **The events that are read off what a run offers**, if all of it can be read. -/
def eventsSent (read : Bytes → Option Columns) (u : Setup σ) (b : Batch) (w : World σ) :
    Option (List Event) :=
  ((offers u b w).mapM fun o => read o.2).map fun cs => cs.flatMap Columns.events

/-- Every message of the serializer is read as its columns. -/
def Readable (s : Serializer) (read : Bytes → Option Columns) : Prop :=
  ∀ m bytes, s.encode m = .ok bytes → read bytes = some m.columns

/-- **A run that goes through**: it ends without a fault and has no budget of time that could end
it early, and its messages can be read. -/
structure Through (read : Bytes → Option Columns) (u : Setup σ) (b : Batch) (w : World σ) :
    Prop where
  fault_eq : (run u b w).fault = none
  unbounded : ¬ 0 < u.settings.flow.duration
  readable : Readable u.serializer read

/-- A run that nothing disturbs goes through. -/
theorem Undisturbed.through {buf : Nat → Bytes} (hu : Undisturbed u w) (hb : b.size < 2 ^ 63)
    (hsize : 1 ≤ u.settings.messageSize) (henc : Encodes u b buf)
    (hduration : ¬ 0 < u.settings.flow.duration) (hread : Readable u.serializer read) :
    Through read u b w := by
  obtain ⟨k, p, q, h, ha⟩ := hu.exists_finished hb hsize henc
  exact ⟨(h.ends_finished hb ha).fault_eq, hduration, hread⟩

/-- The columns of an encoded message are read off it in either format. -/
theorem readable_ofFormat (f : Format) :
    Readable (.ofFormat f) fun bytes => (f.decode bytes).toOption.map Message.columns := by
  intro m bytes h
  have hdecode := Format.decode_eq_received h
  simp only [hdecode, Except.toOption, Option.map_some, Format.received_columns]

/-! ## What is sent -/

theorem mapM_eq_some {α β : Type} {f : α → Option β} {g : α → β} {l : List α}
    (h : ∀ x ∈ l, f x = some (g x)) : l.mapM f = some (l.map g) := by
  induction l with
  | nil => rfl
  | cons x l ih =>
    rw [List.mapM_cons, h x List.mem_cons_self, ih fun y hy => h y (List.mem_cons_of_mem x hy)]
    rfl

/-- The columns of the messages are read off what is noted of them. -/
theorem Ledger.read_noted {r : Report} (h : Ledger u b k r) (hb : b.size < 2 ^ 63)
    (hs : 0 < u.size) (hread : Readable u.serializer read) :
    (u.noted b k).mapM (fun o => read o.2) =
      some ((List.range k).map fun i => (u.planned b i).columns) := by
  unfold Setup.noted
  rw [List.mapM_map]
  refine mapM_eq_some fun i hi => ?_
  have hi := List.mem_range.mp hi
  have henc := h.encoded i hi
  rw [messageAt_eq_planned hb hs (Nat.lt_of_lt_of_le hi h.le_count)] at henc
  exact hread _ _ henc

/-- **A run that goes through sends the events of its batch, once for each pass**, and reports as
many. -/
theorem Through.eventsSent_eq (h : Through read u b w) (hb : b.size < 2 ^ 63) :
    eventsSent read u b w = some (List.replicate u.passes b.events.toList).flatten ∧
      (run u b w).report.events = u.passes * b.size := by
  obtain ⟨k, p, q, hdelivered, ha⟩ := exists_finished_of_fault hb h.fault_eq
  have hk : k = u.count b := hdelivered.eq_count hb h.unbounded ha
  subst hk
  have hs : 0 < u.size := (hdelivered.at_plan hb).1.size_pos
  have hledger := hdelivered.ledger hb
  have hreport := (hdelivered.ends_finished hb ha).ledger ((ask_move ha).2.2.2.1 ▸ hledger)
  constructor
  · unfold eventsSent
    rw [hdelivered.offers_finished hb ha, hledger.read_noted hb hs h.readable, Option.map_some,
      List.flatMap_map, ← flatMap_planned_events hs]
    simp only [Setup.planned, Columns.events_ofEvents]
  · rw [hreport.events_eq, sum_length_chunk hs]

theorem flatten_replicate_flatten {α : Type} (l : List α) (copies passes : Nat) :
    (List.replicate passes (List.replicate copies l).flatten).flatten =
      (List.replicate (copies * passes) l).flatten := by
  induction passes with
  | zero => rfl
  | succ p ih =>
    rw [List.replicate_succ', List.flatten_append, List.flatten_singleton, ih, Nat.mul_succ,
      ← List.replicate_append_replicate, List.flatten_append]

/-- **Copies are as good as passes.** A batch of `factor` copies, not moved in time, that goes
through `r` times sends the same events in the same order as the batch itself that goes through
`factor * r` times, however both are cut into messages, and both runs report as many events. -/
theorem amplified_sends_repeated {es : Array Event} {factor : Int64} {a : Allocator}
    (hfactor : 1 ≤ factor.toInt) (hadmits : a.Admits (es.size * factor.toInt.toNat)) :
    ∃ more, (Batch.live es).amplify factor a 0 = .ok more ∧
      ∀ {σ τ : Type} (u : Setup σ) (v : Setup τ) (w : World σ) (x : World τ)
        (readU readV : Bytes → Option Columns),
        Through readU u more w → Through readV v (.live es) x →
        v.passes = factor.toInt.toNat * u.passes →
        eventsSent readU u more w = eventsSent readV v (.live es) x ∧
          eventsSent readV v (.live es) x =
            some (List.replicate (factor.toInt.toNat * u.passes) es.toList).flatten ∧
          (run u more w).report.events = (run v (.live es) x).report.events := by
  have hneeds : (es.size * factor.toInt : Int) = ((es.size * factor.toInt.toNat : Nat) : Int) := by
    rw [Int.natCast_mul, Int.toNat_of_nonneg (by omega)]
  have hanswer := Batch.amplify_grants a es hfactor 0
  rw [hneeds] at hanswer
  obtain ⟨more, hmore, rfl⟩ := hanswer.of_admits hadmits
  have hlt := hadmits.lt_word
  have hle : es.size ≤ es.size * factor.toInt.toNat := Nat.le_mul_of_pos_right _ (by omega)
  refine ⟨_, hmore, fun u v w x readU readV hu hv hpasses => ?_⟩
  have hsize : (Batch.live (Batch.tile es factor.toInt.toNat 0)).size =
      es.size * factor.toInt.toNat := Batch.size_tile _ _ _
  obtain ⟨hcopied, hcopies⟩ := hu.eventsSent_eq (by rw [hsize]; exact hlt)
  obtain ⟨hrepeated, hrepeats⟩ := hv.eventsSent_eq (Nat.lt_of_le_of_lt hle hlt)
  rw [hpasses] at hrepeated hrepeats
  refine ⟨?_, hrepeated, ?_⟩
  · have htile : (Batch.live (Batch.tile es factor.toInt.toNat 0)).events.toList =
        (List.replicate factor.toInt.toNat es.toList).flatten := Batch.toList_tile_zero _ _
    rw [hcopied, hrepeated, htile, flatten_replicate_flatten]
    rfl
  · rw [hcopies, hrepeats, hsize]
    show u.passes * (es.size * factor.toInt.toNat) = factor.toInt.toNat * u.passes * es.size
    ring

/-- A run that sends messages of so many events, in so many passes, to a transmitter that takes
everything. -/
def passing (format : Format) (size passes : Int64) : Setup Unit where
  settings :=
    { transport := { topic := "t" }
      flow := { eventsPerMessage := size, passes := passes } }
  serializer := .ofFormat format
  transmitter := fun ctx _ _ s => ⟨s, ctx, none, []⟩
  runId := "passing"

/-- A plan all of whose messages have an encoding. -/
theorem Encodes.of_isSome
    (h : ∀ k < u.count b, (u.serializer.encode (u.planned b k)).toOption.isSome = true) :
    Encodes u b fun k => (u.serializer.encode (u.planned b k)).toOption.getD [] := by
  intro k hk
  specialize h k hk
  cases hencode : u.serializer.encode (u.planned b k) with
  | ok bytes => simp only [hencode, Except.toOption, Option.getD_some]
  | error f =>
    rw [hencode] at h
    cases h

/-- If its messages have an encoding, it goes through. -/
theorem passing_through {format : Format} {size passes : Int64} {b : Batch} (hb : b.size < 2 ^ 63)
    (hsize : 1 ≤ (passing format size passes).settings.messageSize)
    (h : ∀ k < (passing format size passes).count b,
      (format.encode ((passing format size passes).planned b k)).toOption.isSome = true) :
    Through (fun bytes => (format.decode bytes).toOption.map Message.columns)
      (passing format size passes) b { clock := ⟨0, 1⟩, transmitter := () } := by
  have hu : Undisturbed (passing format size passes) { clock := ⟨0, 1⟩, transmitter := () } :=
    ⟨rfl, Flow.Controller.waits_live, fun _ _ _ => ⟨rfl, rfl⟩⟩
  exact hu.through hb hsize (.of_isSome h) (by show ¬ (0 : Duration) < 0; decide) (readable_ofFormat format)

/-- Two copies of three events, in messages of four, and two passes over the three events, in
messages of two. -/
theorem amplified_sends_repeated_three :
    let es : Array Event := #[⟨1, 10⟩, ⟨2, 20⟩, ⟨3, 30⟩]
    let w : World Unit := { clock := ⟨0, 1⟩, transmitter := () }
    ∃ more, (Batch.live es).amplify 2 .unlimited 0 = .ok more ∧
      eventsSent (fun bytes => (Format.ev42.decode bytes).toOption.map Message.columns)
          (passing .ev42 4 1) more w =
        eventsSent (fun bytes => (Format.json.decode bytes).toOption.map Message.columns)
          (passing .json 2 2) (.live es) w := by
  intro es w
  obtain ⟨more, hmore, hsame⟩ := @amplified_sends_repeated es 2 .unlimited (by decide)
    ((Allocator.check_eq_ok_iff (by decide)).mp (by decide))
  have hcopies : more = .live (Batch.tile es 2 0) := by
    have hgranted : (Batch.live es).amplify 2 .unlimited 0 = .ok (.live (Batch.tile es 2 0)) := by
      decide +kernel
    exact Except.ok.inj (hmore.symm.trans hgranted)
  subst hcopies
  have hcopied := @passing_through .ev42 4 1 (.live (Batch.tile es 2 0)) (by decide +kernel)
    (by decide) (by decide +kernel)
  have hrepeated := @passing_through .json 2 2 (.live es) (by decide) (by decide)
    (by decide +kernel)
  exact ⟨_, hmore, (hsame _ _ w w _ _ hcopied hrepeated (by decide)).1⟩

end DetectorStream.Run
