import DetectorStream.Proofs.Delivery.Verification
import DetectorStream.Proofs.Run.Ledger
import DetectorStream.Proofs.Run.Message
import DetectorStream.Proofs.Wire.Received

/-!
# Runs into a file

A run whose transmitter is a sink of files leaves the messages it has sent in the file of its topic,
each as a frame. Who reads the frames back and decodes them finds the messages of the plan, under
their numbers.

* `ToFile`: the run goes to a file that is not there or empty.
* `Filing`, **`Delivered.filing`**: after `k` deliveries the file holds the frames of the first `k`
  messages.
* `Filed`, **`filed_of_run`**: what a run that succeeds leaves behind.
* **`Ledger.numbered`**: the messages of a run are numbered frames.
* **`run_leaves_frames`**: the frames are read back, decoded and verified.
-/

namespace DetectorStream

namespace Run

open Delivery (FileSink)
open DetectorStream.Flow (Controller)

variable {σ : Type} {k : Nat}

/-! ## The file -/

variable {u : Setup FileSink} {b : Batch} {w : World FileSink} {p : Progress FileSink}

/-- The first `k` messages, encoded. -/
def Setup.buffers (u : Setup σ) (b : Batch) (k : Nat) : List Bytes :=
  (List.range k).map (u.buffer b)

theorem length_buffers (u : Setup σ) (b : Batch) (k : Nat) : (u.buffers b k).length = k := by
  unfold Setup.buffers
  rw [List.length_map, List.length_range]

theorem buffers_succ (u : Setup σ) (b : Batch) (k : Nat) :
    u.buffers b (k + 1) = u.buffers b k ++ [u.buffer b k] := by
  unfold Setup.buffers
  rw [List.range_succ, List.map_append]
  rfl

/-- **The run goes to a file that is not there or empty**, and which the sink has not opened yet. -/
structure ToFile (u : Setup FileSink) (w : World FileSink) : Prop where
  transmitter_eq : u.transmitter = FileSink.send
  topic_ne : u.settings.transport.topic ≠ FileSink.standardOutput
  unopened : w.transmitter.opened.lookup u.settings.transport.topic = none
  vacant : w.transmitter.files.Contents u.settings.transport.topic []

/-- A message that is sent is added to the file as a frame. -/
theorem ToFile.send_holds (hf : ToFile u w) {s : FileSink} {contents : Bytes} {c : Chunk}
    {ctx : Context} {n : Nat} (h : s.Holds u.settings.transport.topic contents)
    (hsend : (u.send b c ctx s).result = .ok n) :
    ∃ bytes j, u.serializer.encode (message u.settings.sourceName b c) = .ok bytes ∧
      (u.send b c ctx s).state.Open u.settings.transport.topic j (contents ++ Frame.encode bytes) ∧
      s.files.key u.settings.transport.topic = .ok j := by
  obtain ⟨bytes, henc, -, hfault⟩ := send_eq_ok hsend
  have hstate : (u.send b c ctx s).state =
      (u.transmitter ctx u.settings.transport.topic bytes s).state := by
    unfold Setup.send
    rw [henc]
  rw [hf.transmitter_eq] at hfault hstate
  obtain ⟨j, hopen, hkey⟩ := h.write hf.topic_ne (FileSink.write_of_send hfault)
  exact ⟨bytes, j, henc, hstate ▸ hopen, hkey⟩

/-- **The sink after `k` deliveries** holds the frames of the first `k` messages. The file is there
if it was there before or if a message was delivered. -/
structure Filing (u : Setup FileSink) (b : Batch) (w : World FileSink) (k : Nat) (s : FileSink) :
    Prop where
  holds : s.Holds u.settings.transport.topic ((u.buffers b k).flatMap Frame.encode)
  there : w.transmitter.files.node u.settings.transport.topic = .ok (.file []) ∨ 0 < k →
    s.files.node u.settings.transport.topic = .ok (.file ((u.buffers b k).flatMap Frame.encode))
  untouched : k = 0 → s = w.transmitter
  key_eq : s.files.key u.settings.transport.topic =
    w.transmitter.files.key u.settings.transport.topic

theorem Filing.zero (hf : ToFile u w) : Filing u b w 0 w.transmitter := by
  refine ⟨.unopened hf.unopened hf.vacant, fun hthere => ?_, fun _ => rfl, rfl⟩
  rcases hthere with hnode | hpos
  · exact hnode
  · exact absurd hpos (Nat.lt_irrefl 0)

/-- **Every delivery adds a frame.** -/
theorem Delivered.filing (hf : ToFile u w) (hb : b.size < 2 ^ 63) (h : Delivered u b w k p) :
    Filing u b w k p.transmitter := by
  induction h with
  | begun h => exact Filing.zero hf
  | @next k p q p' c h ha hs ih =>
    obtain ⟨rfl, -⟩ := h.ask_chunk hb ha
    obtain ⟨-, -, htrans, -⟩ := ask_move ha
    obtain ⟨n, hn, rfl⟩ := step_delivered hs
    obtain ⟨bytes, j, henc, hopen, hkey⟩ := hf.send_holds (htrans ▸ ih.holds) hn
    have hframes : (u.buffers b (k + 1)).flatMap Frame.encode =
        (u.buffers b k).flatMap Frame.encode ++ Frame.encode bytes := by
      rw [buffers_succ, List.flatMap_append, buffer_eq henc]
      simp
    rw [(delivered_eq u _ _ n).2.2.1]
    rw [← hframes] at hopen
    refine ⟨.opened j hopen, fun _ => hopen.keeps.node_eq, nofun, ?_⟩
    rw [← ih.key_eq, ← htrans, hkey]
    exact hopen.keeps.key_eq

/-! ## What is left behind -/

/-- **What a run leaves behind that has sent `k` messages to a file.** -/
structure Filed (u : Setup FileSink) (b : Batch) (w : World FileSink) (k : Nat) : Prop where
  size_pos : 0 < u.size
  ledger : Ledger u b k (run u b w).report
  offers_eq : offers u b w = u.noted b k
  filing : Filing u b w k (run u b w).world.transmitter

/-- **A run that succeeds leaves the frames of its messages in the file.** -/
theorem filed_of_run (hf : ToFile u w) (hb : b.size < 2 ^ 63) (hrun : (run u b w).fault = none) :
    ∃ k, Filed u b w k := by
  obtain ⟨k, p, q, h, ha⟩ := exists_finished_of_fault hb hrun
  have hends := h.ends_finished hb ha
  obtain ⟨-, -, htrans, hreport, -⟩ := ask_move ha
  refine ⟨k, (h.at_plan hb).1.size_pos, hends.ledger (hreport ▸ h.ledger hb),
    h.offers_finished hb ha, ?_⟩
  rw [hends.transmitter_eq, htrans]
  exact h.filing hf hb

variable {format : Format}

/-- The message of a chunk has as many events as the chunk. -/
theorem size_planned (hs : 0 < u.size) (hk : k < u.count b) :
    (u.planned b k).size = (u.chunk b k).length := by
  rw [← length_slice_chunk hs hk]
  exact List.length_map _

/-- Every message that was sent is decoded as what is received of it. -/
theorem Filed.decode_buffer (h : Filed u b w k) (hb : b.size < 2 ^ 63)
    (hserializer : u.serializer = .ofFormat format) {i : Nat} (hi : i < k) :
    format.decode (u.buffer b i) = .ok (format.received (u.planned b i)) := by
  have henc := h.ledger.encoded i hi
  rw [messageAt_eq_planned hb h.size_pos (Nat.lt_of_lt_of_le hi h.ledger.le_count), hserializer]
    at henc
  exact Format.decode_eq_received henc

/-- **The messages that a run has sent are numbered frames**, however the run ended. -/
theorem Ledger.numbered {r : Report} (h : Ledger u b k r)
    (hserializer : u.serializer = .ofFormat format) :
    Verify.Numbered format 0 (u.buffers b k)
      ((List.range k).map fun i => format.received (u.messageAt b i)) := by
  refine Verify.numbered_range fun i hi => ?_
  have henc := h.encoded i hi
  rw [hserializer] at henc
  refine ⟨Format.decode_eq_received henc, ?_⟩
  rw [Format.received_id, messageAt_id, Nat.zero_add]

/-- The frames of a run, where they are, pass the check with the counts of its report. -/
theorem Filed.verify {files : Files} {path : Text} (h : Filed u b w k) (hb : b.size < 2 ^ 63)
    (hserializer : u.serializer = .ofFormat format)
    (hshort : ∀ buf ∈ u.buffers b k, buf.length < 2 ^ 32)
    (hnode : files.node path = .ok (.file ((u.buffers b k).flatMap Frame.encode))) :
    Verify.file files path format.name =
      .ok ((run u b w).report.messages, (run u b w).report.events) := by
  have hsizes : ((List.range k).map fun i => (format.received (u.messageAt b i)).size) =
      (List.range k).map fun i => (u.chunk b i).length := by
    refine List.map_congr_left fun i hi => ?_
    have hk := Nat.lt_of_lt_of_le (List.mem_range.mp hi) h.ledger.le_count
    rw [Format.received_size, messageAt_eq_planned hb h.size_pos hk, size_planned h.size_pos hk]
  have hmessages := Verify.messages_of_numbered (h.ledger.numbered hserializer)
  rw [List.map_map] at hmessages
  rw [Verify.file_eq_stream hnode, Verify.stream_frames hshort, hmessages, h.ledger.messages_eq,
    h.ledger.events_eq, ← hsizes]
  simp [length_buffers, Except.map, Function.comp_def]

/-- **A run into a file that succeeds leaves a file of frames.** What it has sent are the messages
of its plan. Reading the file gives them in order, and each decodes to the message of its chunk, with
the columns that are sliced off the batch and the place of the frame as its number. As soon as
something was sent, the file passes the check with the counts of the report. -/
theorem run_leaves_frames (hb : b.size < 2 ^ 63) (hserializer : u.serializer = .ofFormat format)
    (hf : ToFile u w) (hrun : (run u b w).fault = none)
    (hshort : ∀ o ∈ offers u b w, o.2.length < 2 ^ 32) :
    let topic := u.settings.transport.topic
    let report := (run u b w).report
    let files := (run u b w).world.transmitter.files
    offers u b w = (List.range report.messages).map (fun k => (topic, u.buffer b k)) ∧
      (∃ contents, files.Contents topic contents ∧
        (w.transmitter.files.node topic = .ok (.file []) ∨ 0 < report.messages →
          files.node topic = .ok (.file contents)) ∧
        Frame.decode ⟨contents, .clean, false⟩ =
          ((List.range report.messages).map (u.buffer b), none)) ∧
      (∀ k < report.messages, ∃ m, format.decode (u.buffer b k) = .ok m ∧
        m = format.received (u.planned b k) ∧ m.id = UInt64.ofNat k ∧
        b.slice (Int64.ofNat (u.chunk b k).offset) (Int64.ofNat (u.chunk b k).length) =
          some m.columns) ∧
      (0 < report.messages →
        Verify.file files topic format.name = .ok (report.messages, report.events)) := by
  intro topic report files
  obtain ⟨k, h⟩ := filed_of_run hf hb hrun
  have hcount : report.messages = k := h.ledger.messages_eq
  have hbuffers : ∀ buf ∈ u.buffers b k, buf.length < 2 ^ 32 := by
    intro buf hbuf
    obtain ⟨i, hi, rfl⟩ := List.mem_map.mp hbuf
    refine hshort (topic, u.buffer b i) ?_
    rw [h.offers_eq]
    exact List.mem_map.mpr ⟨i, hi, rfl⟩
  rw [hcount]
  refine ⟨h.offers_eq, ⟨_, h.filing.holds.found, h.filing.there,
    Frame.decode_frames hbuffers false⟩, ?_, ?_⟩
  · intro i hi
    refine ⟨_, h.decode_buffer hb hserializer hi, rfl, ?_, ?_⟩
    · rw [Format.received_id]
      rfl
    · rw [Format.received_columns]
      exact slice_chunk hb h.size_pos (Nat.lt_of_lt_of_le hi h.ledger.le_count)
  · intro hpos
    rw [← hcount]
    exact h.verify hb hserializer hbuffers (h.filing.there (Or.inr hpos))

/-- A run that writes messages of two events to a file. -/
def filing : Setup FileSink where
  settings := { transport := { topic := "out.bin" }, flow := { eventsPerMessage := 2 } }
  serializer := .ofFormat .ev42
  transmitter := FileSink.send
  runId := "file"

/-- Three events, written to a file that is not there yet. -/
theorem run_leaves_frames_three :
    let b := Batch.live #[⟨1, 10⟩, ⟨2, 20⟩, ⟨3, 30⟩]
    let w : World FileSink := { clock := ⟨0, 1⟩, transmitter := { files := .empty } }
    let r := run filing b w
    r.fault = none ∧ (offers filing b w).length = 2 ∧
      Verify.file r.world.transmitter.files "out.bin" "ev42" = .ok (2, 3) := by
  intro b w r
  have hf : ToFile filing w := ⟨rfl, by decide, rfl, Or.inr ⟨nofun, rfl⟩⟩
  have hrun : r.fault = none := by decide +kernel
  have hshort : ∀ o ∈ offers filing b w, o.2.length < 2 ^ 32 := by decide +kernel
  have hmessages : r.report.messages = 2 := by decide +kernel
  have hevents : r.report.events = 3 := by decide +kernel
  obtain ⟨hoffers, -, -, hverify⟩ := run_leaves_frames (by decide) rfl hf hrun hshort
  refine ⟨hrun, ?_, ?_⟩
  · rw [hoffers, List.length_map, List.length_range, hmessages]
  · rw [← hmessages, ← hevents]
    exact hverify (by rw [hmessages]; decide)

end Run

end DetectorStream
