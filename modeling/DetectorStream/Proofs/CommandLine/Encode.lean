import DetectorStream.CommandLine.Stream
import DetectorStream.Proofs.Log.Outputs
import DetectorStream.Proofs.Run.Filed

/-!
# Encoding with a check

The command `encode` empties its output file, streams into it and can then read it again. The file
is created by the first message, so a run that sends nothing leaves none where none was before, and
the check, which wants to open it, fails. In every other case a run that succeeds passes the check.

* `Ran`: the run that streaming comes down to when it succeeds.
* **`stream_ran`**: streaming that succeeds has run, and has written its log.
* `reset_eq_ok`: what the output is before the run; `Leaves`: what is there after it.
* **`encode_verified_iff`**: when a run that succeeds passes the check.
* `verify_rejects_empty`: a run without events that succeeds and does not pass.
-/

namespace DetectorStream.CommandLine

open Delivery (FileSink)

variable {s : Session} {cfg : Settings} {fs files : Files} {format : Format} {b : Batch}
  {r : Run.Report}

/-! ## The run inside -/

/-- A run of the session that writes to a file. -/
def writing (s : Session) (cfg : Settings) (format : Format) : Run.Setup FileSink where
  settings := cfg
  serializer := .ofFormat format
  transmitter := FileSink.send
  runId := s.host.runId

/-- What such a run works on. -/
def workplace (s : Session) : Run.World FileSink where
  clock := s.host.clock
  transmitter := { files := s.host.files }

/-- The events that the settings lead to. -/
def Acquires (s : Session) (cfg : Settings) (b : Batch) : Prop :=
  ∃ entries, Source.acquire { s.host.origins with files := s.host.files } none s.host.memory cfg =
    (.ok b, entries)

/-- **The run that streaming comes down to when it succeeds**: in which format, over which events,
and with which files left behind. -/
structure Ran (s : Session) (cfg : Settings) (format : Format) (b : Batch) (r : Run.Report)
    (files : Files) : Prop where
  format_eq : Format.ofName cfg.format = .ok format
  acquires : Acquires s cfg b
  fault_eq : (Run.run (writing s cfg format) b (workplace s)).fault = none
  report_eq : (Run.run (writing s cfg format) b (workplace s)).report = r
  files_eq : (Run.run (writing s cfg format) b (workplace s)).world.transmitter.files = files

/-- A sink of files is never asked twice, so retries do not matter. -/
theorem runOver_file : runOver s cfg format b FileSink.send { files := s.host.files } =
    Run.run (writing s cfg format) b (workplace s) := by
  unfold runOver
  rw [FileSink.withRetry_send]
  rfl

theorem settle_files {σ : Type} (s : Session) (cfg : Settings) (result : Run.Result σ) :
    (settle s cfg result).session.host.files = s.host.files := by
  unfold settle
  simp only
  split <;> rfl

theorem deliver_ran (hformat : Format.ofName cfg.format = .ok format) (hacquires : Acquires s cfg b)
    (h : (deliver s cfg format b .file).report = .ok r) :
    Ran s cfg format b r (deliver s cfg format b .file).session.host.files := by
  simp only [deliver, runOver_file] at h ⊢
  rw [settle_files]
  unfold settle at h
  simp only at h
  split at h
  · cases h
  · rename_i hfault
    exact ⟨hformat, hacquires, hfault, Except.ok.inj h, rfl⟩

theorem connected_ran (hkind : cfg.transport.kind = "file") (hacquires : Acquires s cfg b)
    (h : (connected s cfg b).report = .ok r) :
    ∃ format, Ran s cfg format b r (connected s cfg b).session.host.files := by
  have hconnect : Delivery.connect s.host.reach cfg.transport = .ok .file := by
    unfold Delivery.connect
    rw [hkind]
    rfl
  unfold connected at h ⊢
  cases hformat : Format.ofName cfg.format with
  | error f =>
    rw [hformat] at h
    cases h
  | ok format =>
    rw [hformat, hconnect] at h
    rw [hconnect]
    exact ⟨format, deliver_ran hformat hacquires h⟩

theorem checked_ran (hkind : cfg.transport.kind = "file") (h : (checked s cfg).report = .ok r) :
    ∃ format b, Ran s cfg format b r (checked s cfg).session.host.files := by
  unfold checked at h ⊢
  split at h
  · cases h
  · unfold acquired at h ⊢
    simp only at h ⊢
    split at h
    · cases h
    · rename_i b entries hacquire
      obtain ⟨format, hran⟩ := connected_ran hkind ⟨entries, hacquire⟩ h
      exact ⟨format, b, hran⟩

theorem foldl_host {f : Session → Log.Output → Session} (hf : ∀ s o, (f s o).host = s.host)
    (outputs : List Log.Output) (s : Session) : (outputs.foldl f s).host = s.host := by
  induction outputs generalizing s with
  | nil => rfl
  | cons o outputs ih => rw [List.foldl_cons, ih, hf]

/-- Of the host, writing a log changes the files of the log alone. -/
theorem record_files (s : Session) (outputs : List Log.Output) (lines : Text) :
    (s.record outputs lines).host.files = Log.writeFiles s.host.files outputs lines := by
  unfold Session.record
  exact congrArg Host.files (foldl_host (fun s o => by cases o <;> rfl) outputs _)

/-- **Streaming that succeeds has opened its log, has run, and has written the log.** -/
theorem stream_ran (hkind : cfg.transport.kind = "file") (h : (stream s cfg).2 = .ok r) :
    ∃ fs outputs lines format b files,
      Log.outputs s.host.files cfg.log = (fs, .ok outputs) ∧
      Ran (s.withFiles fs) cfg format b r files ∧
      (stream s cfg).1.host.files = Log.writeFiles files outputs lines := by
  unfold stream at h ⊢
  split at h
  · cases h
  · rename_i style hstyle
    split at h
    · cases h
    · rename_i fs outputs houtputs
      obtain ⟨format, b, hran⟩ := checked_ran hkind h
      exact ⟨fs, outputs, _, format, b, _, houtputs, hran, record_files _ _ _⟩

/-! ## The output file -/

/-- Before the run the output is an empty file if it was a file, and is not there if it was not. -/
theorem reset_eq_ok {path : Text} (hpath : path ≠ FileSink.standardOutput)
    (h : reset files path = .ok fs) :
    ((∃ c, files.node path = .ok (.file c)) ∧ fs.node path = .ok (.file [])) ∨
      ((∀ node, files.node path ≠ .ok node) ∧ fs = files) := by
  unfold reset at h
  rw [if_neg (by simpa using hpath)] at h
  split at h
  · rename_i fs' htruncate
    cases h
    obtain ⟨k, c, hkey, hget, rfl⟩ := Files.truncate_eq_ok htruncate
    refine Or.inl ⟨⟨c, Files.node_eq_ok.mpr ⟨k, hkey, hget⟩⟩, ?_⟩
    exact (Files.keeps_put hkey (by rw [hget]; exact nofun) [] files.room).node_eq
  · rename_i htruncate
    cases h
    refine Or.inr ⟨fun node hnode => ?_, rfl⟩
    obtain ⟨k, hkey, hget⟩ := Files.node_eq_ok.mp hnode
    unfold Files.truncate at htruncate
    rw [hkey] at htruncate
    simp only [hget] at htruncate
    cases node <;> cases htruncate
  · cases h

/-- The check of a file that is not there fails. -/
theorem verified_absent (h : ∀ node, files.node cfg.transport.topic ≠ .ok node) (r : Run.Report) :
    ∃ f, verified files cfg r = .error f ∧ f.kind = .sourceUnavailable := by
  cases hnode : files.node cfg.transport.topic with
  | ok node => exact absurd hnode (h node)
  | error e =>
    have hverified : verified files cfg r =
        .error (Fault.wrap .sourceUnavailable "cannot open encoded output"
          (e.fault "open" cfg.transport.topic)) := by
      unfold verified Verify.file Verify.opened
      rw [hnode]
    exact ⟨_, hverified, rfl⟩

theorem name_of_ofName (h : Format.ofName cfg.format = .ok format) : cfg.format = format.name := by
  unfold Format.ofName at h
  split at h
  · rename_i hname
    cases h
    exact eq_of_beq hname
  split at h
  · rename_i hname
    cases h
    exact eq_of_beq hname
  · cases h

/-- The log goes to other files than the output. -/
def LogsApart (fs : Files) (cfg : Settings) : Prop :=
  ∀ outputs, (Log.outputs fs cfg.log).2 = .ok outputs → Log.Apart fs cfg.transport.topic outputs

/-- The events have a count, and the first `n` messages are short enough for the headers of
frames. -/
def Short (s : Session) (cfg : Settings) (n : Nat) : Prop :=
  ∀ format b, Format.ofName cfg.format = .ok format →
    Acquires (s.withFiles (Log.outputs s.host.files cfg.log).1) cfg b →
      b.size < 2 ^ 63 ∧ ∀ k < n, ((writing s cfg format).buffer b k).length < 2 ^ 32

/-- **What streaming leaves that has succeeded**: the frames of `k` messages, in an output that the
log spares before the run and after it. -/
structure Leaves (s : Session) (cfg : Settings) (r : Run.Report) (format : Format) (b : Batch)
    (k : Nat) (fs files : Files) : Prop where
  ran : Ran (s.withFiles fs) cfg format b r files
  filed : Run.Filed (writing (s.withFiles fs) cfg format) b (workplace (s.withFiles fs)) k
  size_lt : b.size < 2 ^ 63
  short : ∀ i < k, ((writing s cfg format).buffer b i).length < 2 ^ 32
  opened : Files.Spares cfg.transport.topic s.host.files fs
  logged : Files.Spares cfg.transport.topic files (stream s cfg).1.host.files

theorem stream_leaves (hkind : cfg.transport.kind = "file")
    (htopic : cfg.transport.topic ≠ FileSink.standardOutput)
    (hvacant : s.host.files.Contents cfg.transport.topic []) (hapart : LogsApart s.host.files cfg)
    (h : (stream s cfg).2 = .ok r) (hshort : Short s cfg r.messages) :
    ∃ format b k fs files, Leaves s cfg r format b k fs files := by
  obtain ⟨fs, outputs, lines, format, b, files, houtputs, hran, hfiles⟩ := stream_ran hkind h
  have houtputs₁ : (Log.outputs s.host.files cfg.log).1 = fs := by rw [houtputs]
  have hlogs : Log.Apart s.host.files cfg.transport.topic outputs :=
    hapart outputs (by rw [houtputs])
  obtain ⟨hopened, hkeyed⟩ := Log.outputs_spares houtputs hlogs
  obtain ⟨hsize, hbuffers⟩ := hshort format b hran.format_eq (houtputs₁.symm ▸ hran.acquires)
  have hf : Run.ToFile (writing (s.withFiles fs) cfg format) (workplace (s.withFiles fs)) :=
    ⟨rfl, htopic, rfl, hvacant.spared hopened⟩
  obtain ⟨k, hfiled⟩ := Run.filed_of_run hf hsize hran.fault_eq
  have hcount : r.messages = k := hran.report_eq ▸ hfiled.ledger.messages_eq
  have hkey : files.key cfg.transport.topic = fs.key cfg.transport.topic :=
    hran.files_eq ▸ hfiled.filing.key_eq
  have hlogged : Files.Spares cfg.transport.topic files (stream s cfg).1.host.files := by
    rw [hfiles]
    refine Log.writeFiles_spares hkeyed fun j p hmem hj => ?_
    exact (hlogs.spared hopened) j p hmem (hkey ▸ hj)
  exact ⟨format, b, k, fs, files, hran, hfiled, hsize, hcount ▸ hbuffers, hopened, hlogged⟩

variable {k : Nat}

theorem Leaves.messages_eq (h : Leaves s cfg r format b k fs files) : r.messages = k :=
  h.ran.report_eq ▸ h.filed.ledger.messages_eq

/-- An output that was there before, or that something was sent to, passes the check. -/
theorem Leaves.verified_eq (h : Leaves s cfg r format b k fs files)
    (hthere : s.host.files.node cfg.transport.topic = .ok (.file []) ∨ 0 < r.messages) :
    verified (stream s cfg).1.host.files cfg r = .ok () := by
  have hthere' : fs.node cfg.transport.topic = .ok (.file []) ∨ 0 < k :=
    hthere.imp h.opened.node_eq_ok.mpr fun hpos => h.messages_eq ▸ hpos
  have hnode := h.filed.filing.there hthere'
  rw [h.ran.files_eq] at hnode
  have hshort : ∀ buf ∈ (writing s cfg format).buffers b k, buf.length < 2 ^ 32 := by
    intro buf hbuf
    obtain ⟨i, hi, rfl⟩ := List.mem_map.mp hbuf
    exact h.short i (List.mem_range.mp hi)
  have hverify := h.filed.verify h.size_lt rfl hshort (h.logged.node_eq_ok.mpr hnode)
  unfold verified
  rw [name_of_ofName h.ran.format_eq, hverify, h.ran.report_eq]
  simp

/-- An output that was not there is not there afterwards if nothing was sent. -/
theorem Leaves.absent (h : Leaves s cfg r format b k fs files)
    (hnone : ∀ node, s.host.files.node cfg.transport.topic ≠ .ok node) (hzero : r.messages = 0) :
    ∀ node, (stream s cfg).1.host.files.node cfg.transport.topic ≠ .ok node := by
  intro node hnode
  have hsame : files = fs := by
    rw [← h.ran.files_eq, h.filed.filing.untouched (h.messages_eq ▸ hzero)]
    rfl
  have hbefore := h.logged.node_eq_ok.mp hnode
  rw [hsame] at hbefore
  exact hnone node (h.opened.node_eq_ok.mp hbefore)

/-! ## The command -/

/-- The session in which the run begins, with the files after the output was emptied. -/
def started (s : Session) (cfg : Settings) (fs : Files) : Session :=
  (s.withFiles fs).remark (shown cfg)

/-- The command after its run has succeeded. -/
theorem encodeWith_eq {verify : Bool} (htopic : cfg.transport.topic ≠ FileSink.standardOutput)
    (hreset : reset s.host.files cfg.transport.topic = .ok fs)
    (hrun : (stream (started s cfg fs) cfg).2 = .ok r) :
    encodeWith verify cfg s =
      match if verify then verified (stream (started s cfg fs) cfg).1.host.files cfg r
        else .ok () with
      | .error f => ((stream (started s cfg fs) cfg).1, some (.fault f))
      | .ok () => ((stream (started s cfg fs) cfg).1.remark (encoded r), none) := by
  have hoff : (verify && cfg.transport.topic == FileSink.standardOutput) = false := by
    rw [beq_eq_false_iff_ne.mpr htopic, Bool.and_false]
  unfold encodeWith
  rw [hoff, if_neg Bool.false_ne_true, hreset]
  unfold started at hrun ⊢
  simp only
  cases hstream : stream ((s.withFiles fs).remark (shown cfg)) cfg with
  | mk s₁ report =>
    rw [hstream] at hrun
    obtain rfl : report = .ok r := hrun
    rfl

/-- **A run that succeeds passes the check exactly if it has sent something or if the output was
there before**; the check then changes nothing in what the command does. A run that has sent nothing
to an output that was not there does not pass: the check finds no file to open. -/
theorem encode_verified_iff (hkind : cfg.transport.kind = "file")
    (htopic : cfg.transport.topic ≠ FileSink.standardOutput)
    (hreset : reset s.host.files cfg.transport.topic = .ok fs)
    (hrun : (stream (started s cfg fs) cfg).2 = .ok r)
    (hapart : LogsApart fs cfg) (hshort : Short (started s cfg fs) cfg r.messages) :
    (encodeWith false cfg s).2 = none ∧
      (encodeWith true cfg s = encodeWith false cfg s ↔
        0 < r.messages ∨ ∃ c, s.host.files.node cfg.transport.topic = .ok (.file c)) ∧
      (¬ (0 < r.messages ∨ ∃ c, s.host.files.node cfg.transport.topic = .ok (.file c)) →
        ∃ f, (encodeWith true cfg s).2 = some (.fault f) ∧ f.kind = .sourceUnavailable) := by
  have hbefore := reset_eq_ok htopic hreset
  have hvacant : fs.Contents cfg.transport.topic [] := by
    rcases hbefore with ⟨-, hempty⟩ | ⟨hnone, rfl⟩
    · exact Or.inl hempty
    · exact Or.inr ⟨hnone, rfl⟩
  obtain ⟨format, b, k, fs', files, hleaves⟩ :=
    stream_leaves hkind htopic hvacant hapart hrun hshort
  have hplain : encodeWith false cfg s = _ := encodeWith_eq htopic hreset hrun
  have hchecked : encodeWith true cfg s = _ := encodeWith_eq htopic hreset hrun
  rw [if_neg Bool.false_ne_true] at hplain
  rw [if_pos rfl] at hchecked
  have hfails : ¬ (0 < r.messages ∨ ∃ c, s.host.files.node cfg.transport.topic = .ok (.file c)) →
      ∃ f, (encodeWith true cfg s).2 = some (.fault f) ∧ f.kind = .sourceUnavailable := by
    intro hnot
    have hzero : r.messages = 0 := Nat.eq_zero_of_not_pos fun hpos => hnot (Or.inl hpos)
    rcases hbefore with ⟨hfile, -⟩ | ⟨hnone, rfl⟩
    · exact absurd (Or.inr hfile) hnot
    · obtain ⟨f, hverified, hkind⟩ := verified_absent (hleaves.absent hnone hzero) r
      rw [hchecked, hverified]
      exact ⟨f, rfl, hkind⟩
  refine ⟨by rw [hplain], ⟨fun hsame => ?_, fun hthere => ?_⟩, hfails⟩
  · by_contra hnot
    obtain ⟨f, hfault, -⟩ := hfails hnot
    rw [hsame, hplain] at hfault
    cases hfault
  · have hready : fs.node cfg.transport.topic = .ok (.file []) ∨ 0 < r.messages := by
      rcases hthere with hpos | ⟨c, hc⟩
      · exact Or.inr hpos
      · rcases hbefore with ⟨-, hempty⟩ | ⟨hnone, -⟩
        · exact Or.inl hempty
        · exact absurd hc (hnone _)
    rw [hchecked, hplain, hleaves.verified_eq hready]

/-- The settings of `encode` for a source, into the file `out.bin`. -/
def intoFile (source : Text) : Settings :=
  encodeSettings { source := source, transport := { topic := "out.bin" } }

/-- A host with one file, which holds one event. -/
def oneEvent : Session where
  host := { files := .ofList [("in.nev", Nev.image [⟨1, 10⟩])] }

/-- One event is sent to an output that was not there, and passes the check. -/
theorem encode_verified_one :
    (encodeWith false (intoFile "in.nev") oneEvent).2 = none ∧
      (encodeWith true (intoFile "in.nev") oneEvent).2 = none := by
  let start := started oneEvent (intoFile "in.nev") oneEvent.host.files
  have hcount : (stream start (intoFile "in.nev")).2.toOption.map Run.Report.messages = some 1 := by
    decide +kernel
  let opened := start.withFiles (Log.outputs start.host.files (intoFile "in.nev").log).1
  have hbatch : (Source.acquire { opened.host.origins with files := opened.host.files } none
      opened.host.memory (intoFile "in.nev")).1.toOption = some (.live #[⟨1, 10⟩]) := by
    decide +kernel
  have hapart : LogsApart oneEvent.host.files (intoFile "in.nev") := by
    intro outputs houtputs
    cases houtputs
    simp [Log.Apart]
  cases hrun : (stream start (intoFile "in.nev")).2 with
  | error e =>
    rw [hrun] at hcount
    cases hcount
  | ok r =>
    rw [hrun] at hcount
    have hmessages : r.messages = 1 := Option.some.inj hcount
    have hshort : Short start (intoFile "in.nev") r.messages := by
      rw [hmessages]
      rintro format b hformat ⟨entries, hacquire⟩
      rw [show Format.ofName (intoFile "in.nev").format = .ok .ev42 from rfl] at hformat
      cases hformat
      rw [hacquire] at hbatch
      cases hbatch
      exact ⟨by decide, by decide +kernel⟩
    obtain ⟨hplain, hiff, -⟩ := encode_verified_iff rfl (by decide) rfl hrun hapart hshort
    refine ⟨hplain, ?_⟩
    rw [hiff.mpr (Or.inl (by rw [hmessages]; decide)), hplain]

/-- **A run without events succeeds, and does not pass the check**: no message has created the
file. -/
theorem verify_rejects_empty :
    let s : Session := { host := { files := .empty } }
    (encodeWith false (intoFile "synth://?events=0") s).2 = none ∧
      ∃ f, (encodeWith true (intoFile "synth://?events=0") s).2 = some (.fault f) ∧
        f.kind = .sourceUnavailable := by
  intro s
  have hplain : (encodeWith false (intoFile "synth://?events=0") s).2 = none := by decide +kernel
  have hchecked : (encodeWith true (intoFile "synth://?events=0") s).2 =
      some (.fault (Fault.wrap .sourceUnavailable "cannot open encoded output"
        (Errno.noEntry.fault "open" "out.bin"))) := by decide +kernel
  exact ⟨hplain, _, hchecked, rfl⟩

end DetectorStream.CommandLine
