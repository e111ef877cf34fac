import DetectorStream.CommandLine.Program
import DetectorStream.Proofs.CommandLine.Encode
import DetectorStream.Proofs.Settings.Rules

/-!
# Settings that are rejected

The settings of a command line are checked where its run begins. By then the profile has begun, the
command `encode` has emptied its output file, and the log has been opened. So settings that are
rejected cost the file under the topic its contents, and nothing else but profiles and logs; and a
complaint about the log comes before the one about the settings.

* **`stream_rejected`**: streaming with such settings writes to files of the log only.
* `run_rejected`: so `run` keeps all other files.
* `Emptied`: what the reset of the output leaves.
* **`encodeWith_rejected`**: what `encode` leaves, and its complaint.
* **`encode_rejects_late`**: the same for every command line.
* `rejected_encode_empties_output`: a file that a rejected command line empties.
-/

namespace DetectorStream

namespace CommandLine

open Delivery (FileSink)

variable {s s₁ : Session} {cfg : Settings} {fs fs' : Files} {path cpu : Text} {contents : Bytes}
  {P : Text → Prop} {e f : Fault}

/-! ## Streaming -/

/-- A complaint about the settings of a log: its style cannot be had, or an output not be opened. -/
def LogComplaint (log : LogSettings) (e : Fault) : Prop :=
  Log.Style.ofSettings log = .error e ∨ ∃ fs, (Log.outputs fs log).2 = .error e

/-- **Streaming with settings that are rejected** writes to the files of the log only. It ends with
the complaint about the settings, unless there is one about the log. -/
theorem stream_rejected (hcheck : cfg.check = .error f)
    (hP : ∀ k, Log.Names s.host.files cfg.log k → P k) :
    Files.WritesOnly P s.host.files (stream s cfg).1.host.files ∧
      ∃ e, (stream s cfg).2 = .error (.fault e) ∧ (e = f ∨ LogComplaint cfg.log e) := by
  obtain ⟨hfiles, hwithin⟩ := Log.outputs_writesOnly hP
  unfold stream
  split
  · rename_i e hstyle
    exact ⟨.refl P _, e, rfl, .inr (.inl hstyle)⟩
  · split
    · rename_i fs e houtputs
      rw [houtputs] at hfiles
      exact ⟨hfiles, e, rfl, .inr (.inr ⟨_, congrArg Prod.snd houtputs⟩)⟩
    · rename_i fs outputs houtputs
      rw [houtputs] at hfiles
      have hrefused : checked (s.withFiles fs) cfg =
          refused (s.withFiles fs) [] "invalid configuration" [] f := by
        unfold checked
        rw [hcheck]
      simp only [hrefused, record_files]
      have hopened : Log.Within P outputs := hwithin outputs (by rw [houtputs])
      exact ⟨hfiles.trans (Log.writeFiles_writesOnly hopened), f, rfl, .inl rfl⟩

/-- The command `run` streams at once, so it touches no file but those of the log. -/
theorem run_rejected {p : Flag.Parsed} (hsettings : settingsOf s p = .ok cfg)
    (hcheck : cfg.check = .error f) (hP : ∀ k, Log.Names s.host.files cfg.log k → P k) :
    Files.WritesOnly P s.host.files (run p s).1.host.files ∧
      ∃ e, (run p s).2 = some (.fault e) ∧ (e = f ∨ LogComplaint cfg.log e) := by
  obtain ⟨hfiles, e, hfault, hreason⟩ :=
    stream_rejected (s := s.say (shown cfg)) hcheck hP
  unfold run
  rw [hsettings]
  simp only
  split
  · rename_i s₂ e' hstream
    rw [hstream] at hfiles hfault
    cases hfault
    exact ⟨hfiles, e, rfl, hreason⟩
  · rename_i s₂ r hstream
    rw [hstream] at hfault
    cases hfault

/-! ## The output file -/

/-- **What the reset of an output leaves**: an empty file where a file was, and everything as it was
where there was none, or for the standard output. -/
inductive Emptied (path : Text) (fs : Files) : Files → Prop
  | standard (h : path = FileSink.standardOutput) : Emptied path fs fs
  | absent (h : ∀ contents, fs.node path ≠ .ok (.file contents)) : Emptied path fs fs
  | file {k : Text} {contents : Bytes} (hpath : path ≠ FileSink.standardOutput)
      (hkey : fs.key path = .ok k) (hget : fs.get? k = some (.file contents)) :
      Emptied path fs (fs.put k (.file []))

theorem not_file_of_truncate {err : Errno} (h : fs.truncate path = .error err) (contents : Bytes) :
    fs.node path ≠ .ok (.file contents) := by
  intro hnode
  obtain ⟨k, hkey, hget⟩ := Files.node_eq_ok.mp hnode
  unfold Files.truncate at h
  simp only [hkey, hget] at h
  cases h

theorem reset_emptied (h : reset fs path = .ok fs') : Emptied path fs fs' := by
  unfold reset at h
  split at h
  · rename_i hpath
    cases h
    exact .standard (eq_of_beq hpath)
  · rename_i hpath
    split at h
    · rename_i fs₁ htruncate
      cases h
      obtain ⟨k, c, hkey, hget, rfl⟩ := Files.truncate_eq_ok htruncate
      exact .file (by simpa using hpath) hkey hget
    · rename_i htruncate
      cases h
      exact .absent (not_file_of_truncate htruncate)
    · cases h

theorem reset_eq_error (h : reset fs path = .error e) :
    Emptied path fs fs ∧ e.kind = .configuration := by
  unfold reset at h
  split at h
  · cases h
  · split at h
    · cases h
    · cases h
    · rename_i htruncate
      cases h
      exact ⟨.absent (not_file_of_truncate htruncate), rfl⟩

/-- Paths are followed to the same keys as before. -/
theorem Emptied.key_eq_ok (h : Emptied path fs fs') (q k : Text) :
    fs'.key q = .ok k ↔ fs.key q = .ok k := by
  cases h with
  | standard _ => rfl
  | absent _ => rfl
  | file _ hkey hget => exact Files.key_put (Files.key_placed hkey) (by rw [hget]; exact nofun)

/-- A file is emptied by the reset exactly if the path of the output leads to it. -/
theorem Emptied.node_eq {q : Text} (h : Emptied path fs fs')
    (hq : fs.node q = .ok (.file contents)) :
    (path ≠ FileSink.standardOutput → fs.key path = fs.key q → fs'.node q = .ok (.file [])) ∧
      (path = FileSink.standardOutput ∨ fs.key path ≠ fs.key q →
        fs'.node q = .ok (.file contents)) := by
  obtain ⟨j, hj, hget⟩ := Files.node_eq_ok.mp hq
  cases h with
  | standard hpath => exact ⟨fun hne => absurd hpath hne, fun _ => hq⟩
  | absent hnone =>
    refine ⟨fun _ hsame => ?_, fun _ => hq⟩
    exact absurd (Files.node_eq_ok.mpr ⟨j, hsame.trans hj, hget⟩) (hnone contents)
  | @file k c hpath hkey hold =>
    have hvacant : fs.get? k ≠ some .directory := by rw [hold]; exact nofun
    refine ⟨fun _ hsame => ?_, fun hother => ?_⟩
    · rw [hkey] at hsame
      exact (Files.keeps_put hsame.symm hvacant [] fs.room).node_eq
    · have hne : fs.key q ≠ .ok k := by
        intro hk
        rcases hother with hstandard | hother
        · exact hpath hstandard
        · exact hother (hkey.trans hk.symm)
      have hwrites : Files.Writes k fs (fs.put k (.file [])) :=
        .put (Files.key_placed hkey) hvacant [] fs.room
      exact (hwrites.spares hne).node_eq_ok.mpr hq

/-- **What `encode` leaves of settings that are rejected**: it empties the output before the
settings are looked at, and writes to the files of the log. -/
theorem encodeWith_rejected (verify : Bool) (hcheck : cfg.check = .error f)
    (hP : ∀ k, Log.Names s.host.files cfg.log k → P k) :
    (∃ fs, Emptied cfg.transport.topic s.host.files fs ∧
      Files.WritesOnly P fs (encodeWith verify cfg s).1.host.files) ∧
    ∃ e, (encodeWith verify cfg s).2 = some (.fault e) ∧
      (e.kind = .configuration ∨ LogComplaint cfg.log e) := by
  unfold encodeWith
  split
  · rename_i hverify
    have hstandard := eq_of_beq ((Bool.and_eq_true _ _).mp hverify).2
    exact ⟨⟨_, .standard hstandard, .refl P _⟩, _, rfl, .inl rfl⟩
  · split
    · rename_i e hreset
      obtain ⟨hemptied, hkind⟩ := reset_eq_error hreset
      exact ⟨⟨_, hemptied, .refl P _⟩, e, rfl, .inl hkind⟩
    · rename_i fs hreset
      have hemptied := reset_emptied hreset
      have hnames : ∀ k, Log.Names fs cfg.log k → P k := by
        rintro k ⟨t, ht, q, hq, hkey⟩
        exact hP k ⟨t, ht, q, hq, (hemptied.key_eq_ok q k).mp hkey⟩
      obtain ⟨hfiles, e, hfault, hreason⟩ :=
        stream_rejected (s := started s cfg fs) hcheck hnames
      unfold started at hfiles hfault
      split
      · rename_i s₂ e' hstream
        rw [hstream] at hfiles hfault
        cases hfault
        refine ⟨⟨fs, hemptied, hfiles⟩, e, rfl, hreason.imp_left ?_⟩
        rintro rfl
        exact Settings.check_kind cfg _ hcheck
      · rename_i s₂ r hstream
        rw [hstream] at hfault
        cases hfault

/-! ## The command line -/

/-- **A command line of `encode` whose settings are rejected**: it is read, its profile begins, and
the settings that it leads to break a rule. -/
structure Rejected (args : List Text) (s : Session) (p : Flag.Parsed) (cfg : Settings) : Prop where
  parses : ∃ rest, Command.find args = .ok (.encode, rest) ∧
    Flag.parse Command.encode.flags rest = .ok p
  acts : wantsHelp .encode p = false
  begins : (startProfile (textOf p "cpuprofile") s).2 = none
  resolves : ∃ resolved,
    settingsOf (startProfile (textOf p "cpuprofile") s).1 p = .ok resolved ∧
      cfg = encodeSettings resolved
  breaks : ∃ f, cfg.check = .error f

/-- The beginning of a profile writes to its file only. -/
theorem startProfile_writesOnly (hP : ∀ k, s.host.files.key cpu = .ok k → P k) :
    Files.WritesOnly P s.host.files (startProfile cpu s).1.host.files := by
  unfold startProfile
  split
  · exact .refl P _
  · split
    · exact .refl P _
    · rename_i k fs hopen
      obtain ⟨hkey, hwrites⟩ := Files.openToWrite_clear_writes hopen
      simp only
      split <;> exact hwrites.only (hP k hkey)

variable {args : List Text} {p : Flag.Parsed}

theorem encode_eq (h : settingsOf s p = .ok cfg) :
    ∃ verify, encode p s = encodeWith verify (encodeSettings cfg) s := by
  unfold encode
  rw [h]
  exact ⟨_, rfl⟩

/-- A command line that is rejected ends as `encode` does behind the beginning of the profile. -/
theorem Rejected.execute_eq (h : Rejected args s p cfg) :
    ∃ verify, ∀ e s₂,
      encodeWith verify cfg (startProfile (textOf p "cpuprofile") s).1 = (s₂, some e) →
        execute args s = (s₂, some e) := by
  obtain ⟨rest, hfind, hparse⟩ := h.parses
  obtain ⟨resolved, hresolved, rfl⟩ := h.resolves
  have hbegins := h.begins
  unfold execute
  simp only [hfind, hparse, h.acts, Bool.false_eq_true, if_false]
  unfold profile
  generalize startProfile (textOf p "cpuprofile") s = begun at hbegins hresolved
  obtain ⟨s₁, stop⟩ := begun
  obtain rfl : stop = none := hbegins
  obtain ⟨verify, hencode⟩ := encode_eq hresolved
  exact ⟨verify, fun e s₂ hend => by simp only [action, hencode, hend]⟩

/-- No log goes to the path, and no profile. -/
def Unreported (p : Flag.Parsed) (cfg : Settings) (fs : Files) (path : Text) : Prop :=
  ∀ k, fs.key path = .ok k → ¬ Log.Names fs cfg.log k ∧ fs.key (textOf p "cpuprofile") ≠ .ok k

/-- **Settings that are rejected cost the output file its contents.** A command line of `encode`
whose settings break a rule fails with a fault of the configuration or a complaint about its log. Of
the files that were there, logs and profiles apart, all are kept but the one that the topic leads
to, which is emptied. -/
theorem encode_rejects_late (h : Rejected args s p cfg) :
    (∃ e, (execute args s).2 = some (.fault e) ∧
      (e.kind = .configuration ∨ LogComplaint cfg.log e)) ∧
    ∀ path contents, s.host.files.node path = .ok (.file contents) →
      Unreported p cfg s.host.files path →
      (cfg.transport.topic ≠ FileSink.standardOutput →
        s.host.files.key cfg.transport.topic = s.host.files.key path →
        (execute args s).1.host.files.node path = .ok (.file [])) ∧
      (cfg.transport.topic = FileSink.standardOutput ∨
        s.host.files.key cfg.transport.topic ≠ s.host.files.key path →
        (execute args s).1.host.files.node path = .ok (.file contents)) := by
  obtain ⟨verify, hexecute⟩ := h.execute_eq
  obtain ⟨f, hcheck⟩ := h.breaks
  let P (k : Text) : Prop :=
    Log.Names s.host.files cfg.log k ∨ s.host.files.key (textOf p "cpuprofile") = .ok k
  have hbegun : Files.WritesOnly P s.host.files
      (startProfile (textOf p "cpuprofile") s).1.host.files :=
    startProfile_writesOnly fun k => .inr
  generalize (startProfile (textOf p "cpuprofile") s).1 = s₁ at hexecute hbegun
  have hnames : ∀ k, Log.Names s₁.host.files cfg.log k → P k := by
    rintro k ⟨t, ht, q, hq, hkey⟩
    exact .inl ⟨t, ht, q, hq, (hbegun.key_eq_ok q k).mp hkey⟩
  obtain ⟨⟨fs, hemptied, hfiles⟩, e, hfault, hreason⟩ :=
    encodeWith_rejected verify hcheck hnames
  have hend : execute args s = ((encodeWith verify cfg s₁).1, some (.fault e)) :=
    hexecute _ _ (Prod.ext rfl hfault)
  rw [hend]
  refine ⟨⟨e, rfl, hreason⟩, fun path contents hnode hapart => ?_⟩
  have houtside : ∀ k, s.host.files.key path = .ok k → ¬ P k := by
    rintro k hk (hlog | hprofile)
    · exact (hapart k hk).1 hlog
    · exact (hapart k hk).2 hprofile
  have hfiles' : Files.Spares path fs (encodeWith verify cfg s₁).1.host.files :=
    hfiles.spares fun k hk =>
      houtside k ((hbegun.key_eq_ok path k).mp ((hemptied.key_eq_ok path k).mp hk))
  have hnode₁ := (hbegun.spares houtside).node_eq_ok.mpr hnode
  obtain ⟨hempty, hkept⟩ := hemptied.node_eq hnode₁
  have hsame : s₁.host.files.key cfg.transport.topic = s₁.host.files.key path ↔
      s.host.files.key cfg.transport.topic = s.host.files.key path := by
    obtain ⟨k, hk, -⟩ := Files.node_eq_ok.mp hnode
    rw [hk, (hbegun.key_eq_ok path k).mpr hk]
    exact hbegun.key_eq_ok _ k
  refine ⟨fun htopic hkeys => ?_, fun hother => ?_⟩
  · exact hfiles'.node_eq_ok.mpr (hempty htopic (hsame.mpr hkeys))
  · exact hfiles'.node_eq_ok.mpr (hkept (hother.imp_right (mt hsame.mp)))

/-- A host with two files. -/
def twoFiles : Session where
  host := { files := .ofList [("out.bin", [1, 2, 3]), ("in.bin", [4])] }

/-- The words after `encode` of a command line whose settings contradict each other. -/
def conflicting : List Text :=
  ["--source", "synth://?events=1", "--topic", "out.bin", "--bytes", "120", "--multiplier", "2"]

/-- Settings that contradict each other are rejected. -/
theorem rejected_conflicting :
    ∃ p cfg, Rejected ("encode" :: conflicting) twoFiles p cfg ∧
      cfg.transport.topic = "out.bin" ∧ ∀ path, Unreported p cfg twoFiles.host.files path := by
  have hline : ((Flag.parse Command.encode.flags conflicting).toOption.any fun p =>
      !wantsHelp .encode p && (textOf p "cpuprofile").isEmpty &&
        (settingsOf twoFiles p).toOption.any fun cfg =>
          !(encodeSettings cfg).check.isOk && (encodeSettings cfg).transport.topic == "out.bin" &&
            cfg.log.outputPaths.isEmpty) = true := by decide +kernel
  cases hparse : Flag.parse Command.encode.flags conflicting with
  | error _ =>
    rw [hparse] at hline
    cases hline
  | ok p =>
    simp only [hparse, Except.toOption, Option.any_some, Bool.and_eq_true, Bool.not_eq_true',
      List.isEmpty_iff] at hline
    obtain ⟨⟨hacts, hcpu⟩, hsettings⟩ := hline
    cases hresolved : settingsOf twoFiles p with
    | error _ =>
      rw [hresolved] at hsettings
      cases hsettings
    | ok cfg =>
      simp only [hresolved, Option.any_some, Bool.and_eq_true, Bool.not_eq_true', beq_iff_eq,
        List.isEmpty_iff] at hsettings
      obtain ⟨⟨hcheck, htopic⟩, hlog⟩ := hsettings
      have hbreaks : ∃ f, (encodeSettings cfg).check = .error f := by
        cases h : (encodeSettings cfg).check with
        | error f => exact ⟨f, rfl⟩
        | ok _ =>
          rw [h] at hcheck
          cases hcheck
      refine ⟨p, encodeSettings cfg, ⟨⟨conflicting, rfl, hparse⟩, hacts, ?_, ?_, hbreaks⟩, htopic,
        fun path k _ => ⟨?_, ?_⟩⟩
      · rw [hcpu]
        rfl
      · rw [hcpu]
        exact ⟨cfg, hresolved, rfl⟩
      · rintro ⟨t, ht, -⟩
        rw [show (encodeSettings cfg).log.outputPaths = [] from hlog] at ht
        cases ht
      · rw [hcpu]
        exact nofun

/-- Of the two files one is kept, and the other is emptied. -/
theorem encode_rejects_late_conflicting :
    let after := (execute ("encode" :: conflicting) twoFiles).1.host.files
    after.node "in.bin" = .ok (.file [4]) ∧ after.node "out.bin" = .ok (.file []) := by
  intro after
  obtain ⟨p, cfg, hrejected, htopic, hunreported⟩ := rejected_conflicting
  obtain ⟨-, hfiles⟩ := encode_rejects_late hrejected
  obtain ⟨-, hkept⟩ := hfiles "in.bin" [4] (by decide +kernel) (hunreported _)
  obtain ⟨hempty, -⟩ := hfiles "out.bin" [1, 2, 3] (by decide +kernel) (hunreported _)
  rw [htopic] at hkept hempty
  exact ⟨hkept (.inr (by decide +kernel)), hempty (by decide +kernel) rfl⟩

/-- A command line whose settings are rejected does not keep all files, logs and profiles apart. -/
theorem rejected_encode_empties_output :
    ¬ ∀ (args : List Text) (s : Session) (p : Flag.Parsed) (cfg : Settings), Rejected args s p cfg →
      ∀ path contents, s.host.files.node path = .ok (.file contents) →
        Unreported p cfg s.host.files path →
        (execute args s).1.host.files.node path = .ok (.file contents) := by
  intro h
  obtain ⟨p, cfg, hrejected, -, hunreported⟩ := rejected_conflicting
  have hkept := h _ _ p cfg hrejected "out.bin" [1, 2, 3] (by decide +kernel) (hunreported _)
  have hempty : (execute ("encode" :: conflicting) twoFiles).1.host.files.node "out.bin" =
      .ok (.file []) := by decide +kernel
  rw [hempty] at hkept
  cases hkept

end CommandLine

end DetectorStream
