import DetectorStream.Proofs.Run.Filed
import DetectorStream.Proofs.Wire.Truncated

/-!
# Checking the file of a run

However a run ends, it leaves in its file the frames of the messages that it reports, and perhaps the
beginning of one more that was not written to its end. Since each message has its own number, the
check notices what is done to them: a file from which one was taken out that is not the last, in which
one was put in twice or two were exchanged does not pass, and one without the last of them counts fewer
messages than the report.

* `ToFile.send_fails`: what a message leaves in the file that was not taken.
* `Leavings`, **`exists_leavings`**: what any run leaves in its file.
* **`verify_exact`**: which files pass the check, and what becomes of the file of a run that was
  tampered with.
-/

namespace DetectorStream.Run

open Delivery (FileSink)
open Verify (Torn Unmistakable Tampered Numbered)

variable {u : Setup FileSink} {b : Batch} {w : World FileSink} {c : Chunk} {k : Nat}
  {format : Format}

/-! ## What is left of a message -/

/-- A message that was encoded cannot be mistaken for a shorter one. -/
theorem unmistakable_of_encode {m : Message} {buf : Bytes} (h : format.encode m = .ok buf) :
    Unmistakable format buf :=
  fun hlong _ hn => Format.decode_take h hlong hn

/-- **A message that is not taken leaves a beginning of its frame**, or nothing. -/
theorem ToFile.send_fails (hf : ToFile u w) (hserializer : u.serializer = .ofFormat format)
    {s : FileSink} {contents : Bytes} {ctx : Context} {f : Fault}
    (h : s.Holds u.settings.transport.topic contents)
    (hsend : (u.send b c ctx s).result = .error f) :
    ∃ torn, Torn format torn ∧
      (u.send b c ctx s).state.Holds u.settings.transport.topic (contents ++ torn) := by
  have hnothing : s.Holds u.settings.transport.topic (contents ++ []) := by
    rwa [List.append_nil]
  unfold Setup.send at hsend ⊢
  rw [hf.transmitter_eq] at hsend ⊢
  cases henc : u.serializer.encode (message u.settings.sourceName b c) with
  | error f' => exact ⟨[], .nil format, by simpa only [henc] using hnothing⟩
  | ok bytes =>
    simp only [henc] at hsend ⊢
    unfold FileSink.send at hsend ⊢
    cases hctx : Delivery.cancelled? ctx with
    | some f' => exact ⟨[], .nil format, by simpa only [hctx] using hnothing⟩
    | none =>
      simp only [hctx] at hsend ⊢
      cases hwrite : s.write u.settings.transport.topic bytes with
      | mk s' fault =>
        rw [hwrite] at hsend
        cases fault with
        | none => cases hsend
        | some f' =>
          obtain ⟨torn, hhead, hne, hholds⟩ := h.write_fails hf.topic_ne hwrite
          rw [hserializer] at henc
          exact ⟨torn, ⟨bytes, unmistakable_of_encode henc, hhead, hne⟩, hholds⟩

/-! ## What any run leaves -/

/-- **What a run leaves in its file, however it ends**: the frames of the messages that it reports, and
perhaps the beginning of one more if it failed. -/
structure Leavings (u : Setup FileSink) (b : Batch) (w : World FileSink) (format : Format)
    (torn : Bytes) : Prop where
  ledger : Ledger u b (run u b w).report.messages (run u b w).report
  contents : (run u b w).world.transmitter.files.Contents u.settings.transport.topic
    ((u.buffers b (run u b w).report.messages).flatMap Frame.encode ++ torn)
  torn_eq : Torn format torn
  whole : (run u b w).fault = none → torn = []

/-- What a run leaves that has come to its end. -/
theorem Ends.leavings {p : Progress FileSink} {fault : Option Fault} {torn : Bytes}
    (h : Ends u b w p fault) (hledger : Ledger u b k p.report)
    (hholds : p.transmitter.Holds u.settings.transport.topic
      ((u.buffers b k).flatMap Frame.encode ++ torn))
    (htorn : Torn format torn) (hwhole : fault = none → torn = []) : Leavings u b w format torn := by
  have hreported := h.ledger hledger
  have hcount := hreported.messages_eq
  refine ⟨hcount.symm ▸ hreported, ?_, htorn, fun hfault => hwhole (h.fault_eq ▸ hfault)⟩
  rw [hcount, h.transmitter_eq]
  exact hholds.found

/-- **Every run leaves the frames of the messages that it reports.** -/
theorem exists_leavings (hf : ToFile u w) (hb : b.size < 2 ^ 63)
    (hserializer : u.serializer = .ofFormat format) : ∃ torn, Leavings u b w format torn := by
  by_cases hbegins : ∃ flow, Begins u b w flow
  · obtain ⟨flow, hbegin⟩ := hbegins
    obtain ⟨k, p, q, h, hend⟩ := exists_end hb hbegin
    have hledger := h.ledger hb
    have hholds := (h.filing hf hb).holds
    have hwhole : p.transmitter.Holds u.settings.transport.topic
        ((u.buffers b k).flatMap Frame.encode ++ []) := by
      rwa [List.append_nil]
    rcases hend with ha | ⟨f, ha⟩ | ⟨c, f, ha, hfails⟩
    · obtain ⟨-, -, htrans, hreport, -⟩ := ask_move ha
      exact ⟨[], (h.ends_finished hb ha).leavings (hreport ▸ hledger) (htrans ▸ hwhole) (.nil format)
        fun _ => rfl⟩
    · obtain ⟨-, -, htrans, hreport, -⟩ := ask_move ha
      have hledger' : Ledger u b k q.report := hreport ▸ hledger
      exact ⟨[], (h.ends_interrupted hb ha).leavings hledger' (htrans ▸ hwhole) (.nil format)
        fun _ => rfl⟩
    · obtain ⟨-, -, htrans, hreport, -⟩ := ask_move ha
      rw [← htrans] at hholds
      obtain ⟨torn, htorn, hleft⟩ := hf.send_fails hserializer hholds hfails
      have hledger' : Ledger u b k q.report := hreport ▸ hledger
      exact ⟨torn, (h.ends_failed hb ha hfails).leavings (hledger'.fail c) hleft htorn nofun⟩
  · have hunbegun := unbegun hbegins
    obtain ⟨state, duration, hreport⟩ := hunbegun.report_eq
    refine ⟨[], ?_, ?_, .nil format, fun _ => rfl⟩
    · rw [hreport]
      exact ⟨rfl, rfl, rfl, fun i hi => absurd hi (Nat.not_lt_zero i), Nat.zero_le _⟩
    · rw [hreport, hunbegun.transmitter_eq]
      exact hf.vacant

/-! ## What passes the check -/

/-- **The check of a file is exact, and it notices what was done to the file of a run.** A file passes
exactly if it is whole frames, the `i`-th of which holds a message that decodes under the number `i`, and
the check counts them and their events. The file of a run, however it ended, is the frames of the
messages that its report counts, and perhaps the beginning of one more. If one of them other than the
last is taken out, one is put in again or two change places, the file does not pass; and a file without
the last of them passes, if they fit into frames, with another count than that of the report. -/
theorem verify_exact (format : Format) :
    (∀ (fs : Files) (path : Text) (contents : Bytes) (n events : Nat),
      fs.node path = .ok (.file contents) →
        (Verify.file fs path format.name = .ok (n, events) ↔
          ∃ frames ms, contents = frames.flatMap Frame.encode ∧
            (∀ frame ∈ frames, frame.length < 2 ^ 32) ∧ frames.length = n ∧
            Numbered format 0 frames ms ∧ (ms.map Message.size).sum = events)) ∧
    ∀ (u : Setup FileSink) (b : Batch) (w : World FileSink), b.size < 2 ^ 63 →
      u.serializer = .ofFormat format → ToFile u w → (run u b w).report.messages < 2 ^ 64 →
        let frames := u.buffers b (run u b w).report.messages
        ∃ torn, (run u b w).world.transmitter.files.Contents u.settings.transport.topic
            (frames.flatMap Frame.encode ++ torn) ∧
          (∃ message, torn <+: Frame.encode message ∧ torn ≠ Frame.encode message) ∧
          ((run u b w).fault = none → torn = []) ∧
          ∀ (fs : Files) (path : Text) (tail : Bytes), tail = [] ∨ tail = torn →
            (∀ frames', Tampered frames frames' →
              fs.node path = .ok (.file (frames'.flatMap Frame.encode ++ tail)) →
                ∃ f, Verify.file fs path format.name = .error f) ∧
            ∀ n < frames.length,
              fs.node path = .ok (.file ((frames.take n).flatMap Frame.encode ++ tail)) →
                (∀ count events, Verify.file fs path format.name = .ok (count, events) →
                  count = n ∧ count ≠ (run u b w).report.messages) ∧
                (tail = [] → (∀ frame ∈ frames.take n, frame.length < 2 ^ 32) →
                  ∃ events, Verify.file fs path format.name = .ok (n, events)) := by
  refine ⟨fun fs path contents n events hnode => ?_, fun u b w hb hserializer hf hlt => ?_⟩
  · rw [Verify.file_eq_stream hnode]
    exact Verify.stream_eq_ok_iff
  intro frames
  obtain ⟨torn, hleft⟩ := exists_leavings hf hb hserializer
  have hlength : frames.length = (run u b w).report.messages := length_buffers u b _
  have hnumbered := hleft.ledger.numbered hserializer
  have hframes : ∀ frame ∈ frames, Unmistakable format frame := by
    intro frame hframe
    obtain ⟨i, hi, rfl⟩ := List.mem_map.mp hframe
    have henc := hleft.ledger.encoded i (List.mem_range.mp hi)
    rw [hserializer] at henc
    exact unmistakable_of_encode henc
  obtain ⟨m, -, hhead, hne⟩ := hleft.torn_eq
  refine ⟨torn, hleft.contents, ⟨m, hhead, hne⟩, hleft.whole, fun fs path tail htail => ?_⟩
  have htorn : Torn format tail := by
    rcases htail with rfl | rfl
    · exact .nil format
    · exact hleft.torn_eq
  refine ⟨fun frames' htampered hnode => ?_, fun n hn hnode => ?_⟩
  · rw [Verify.file_eq_stream hnode]
    exact Verify.stream_tampered hnumbered (hlength.trans_lt hlt) hframes htampered htorn false
  · rw [Verify.file_eq_stream hnode]
    have htake : (frames.take n).length = n := List.length_take_of_le (Nat.le_of_lt hn)
    refine ⟨fun count events hpass => ?_, ?_⟩
    · obtain ⟨-, hcount, -⟩ := Verify.numbered_of_stream
        (fun frame hframe => hframes frame (List.mem_of_mem_take hframe)) htorn hpass
      omega
    · rintro rfl hfit
      rw [List.append_nil, Verify.stream_frames hfit,
        Verify.messages_of_numbered (hnumbered.take n), htake]
      exact ⟨_, rfl⟩

/-- A file system with one file, which holds these frames. -/
def holding (frames : List Bytes) : Files :=
  .ofList [("copy.bin", frames.flatMap Frame.encode)]

/-- Two messages that were sent: their frames pass, the exchanged ones do not, and the first alone is
counted as one. -/
theorem verify_exact_two :
    let b := Batch.live #[⟨1, 10⟩, ⟨2, 20⟩, ⟨3, 30⟩]
    let w : World FileSink := { clock := ⟨0, 1⟩, transmitter := { files := .empty } }
    let first := filing.buffer b 0
    let second := filing.buffer b 1
    (run filing b w).report.messages = 2 ∧
      (∃ frames ms, [first, second].flatMap Frame.encode = frames.flatMap Frame.encode ∧
        frames.length = 2 ∧ Numbered .ev42 0 frames ms ∧ (ms.map Message.size).sum = 3) ∧
      (∃ f, Verify.file (holding [second, first]) "copy.bin" "ev42" = .error f) ∧
      ∃ events, Verify.file (holding [first]) "copy.bin" "ev42" = .ok (1, events) := by
  intro b w first second
  have hf : ToFile filing w := ⟨rfl, by decide, rfl, Or.inr ⟨nofun, rfl⟩⟩
  have hmessages : (run filing b w).report.messages = 2 := by decide +kernel
  have hnode : ∀ frames, (holding frames).node "copy.bin" =
      .ok (.file (frames.flatMap Frame.encode)) := fun _ => rfl
  have hpass : Verify.file (holding [first, second]) "copy.bin" "ev42" = .ok (2, 3) := by
    decide +kernel
  have hfit : first.length < 2 ^ 32 := by decide +kernel
  have hbuffers : filing.buffers b 2 = [first, second] := rfl
  obtain ⟨hexact, hnotices⟩ := verify_exact .ev42
  obtain ⟨frames, ms, hframes, -, hlength, hnumbered, hevents⟩ :=
    (hexact _ _ _ 2 3 (hnode [first, second])).mp hpass
  obtain ⟨torn, -, -, -, hnoticed⟩ := hnotices filing b w (by decide) rfl hf (by omega)
  rw [hmessages, hbuffers] at hnoticed
  clear_value first second
  have hswapped : Tampered [first, second] [second, first] :=
    @Tampered.swapped [first, second] 0 1 Nat.two_pos Nat.one_lt_two Nat.zero_ne_one
  refine ⟨hmessages, ⟨frames, ms, hframes, hlength, hnumbered, hevents⟩, ?_, ?_⟩
  · obtain ⟨htampered, -⟩ := hnoticed (holding [second, first]) "copy.bin" [] (.inl rfl)
    exact htampered _ hswapped (by rw [hnode, List.append_nil])
  · obtain ⟨-, hdropped⟩ := hnoticed (holding [first]) "copy.bin" [] (.inl rfl)
    have hone := hdropped 1 Nat.one_lt_two (by rw [hnode, List.append_nil]; rfl)
    exact hone.2 rfl (List.forall_mem_singleton.mpr hfit)

end DetectorStream.Run
