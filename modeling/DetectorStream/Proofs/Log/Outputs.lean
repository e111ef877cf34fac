import DetectorStream.Log.Outputs
import DetectorStream.Proofs.Files.Writing

/-!
# Logs and other files

Opening the outputs of a log creates their files, and writing lines appends to them. A path that
none of them is kept under is spared by both.

* `Apart`: no output is kept under the key of a path.
* `outputs_spares`: opening the outputs spares the path.
* **`writeFiles_spares`**: writing lines to them spares it.
* `Names`, **`outputs_writesOnly`**: the files that the settings name are the only ones written.
-/

namespace DetectorStream.Log

variable {fs fs' : Files} {path : Text} {os : List Output} {o : Output}

/-- An output is a file under the key of its path, or none of the files. -/
inductive Opens (fs : Files) : Output → Files → Prop
  | standard : Opens fs .standard fs
  | errors : Opens fs .errors fs
  | file {k p : Text} {fs' : Files} (key_eq : fs.key p = .ok k) (writes : fs.Writes k fs') :
      Opens fs (.file k p) fs'

theorem ofPath_opens {t : Text} (h : Output.ofPath fs t = .ok (o, fs')) : Opens fs o fs' := by
  unfold Output.ofPath at h
  split at h
  · cases h
    exact .standard
  split at h
  · cases h
    exact .errors
  split at h
  · rename_i k fs₁ hopen
    cases h
    obtain ⟨hkey, hwrites⟩ := Files.openToWrite_writes hopen
    exact .file hkey hwrites
  · cases h

theorem ofText_opens {t : Text} (h : Output.ofText fs t = .ok (o, fs')) : Opens fs o fs' := by
  unfold Output.ofText at h
  split at h
  · exact ofPath_opens h
  split at h
  · cases h
  split at h
  · cases h
  split at h
  · cases h
  · exact ofPath_opens h

theorem Opens.isKey (h : Opens fs o fs') {k p : Text} (ho : o = .file k p) : Files.IsKey k := by
  cases h with
  | standard => cases ho
  | errors => cases ho
  | file key_eq _ =>
    cases ho
    exact Files.key_isKey key_eq

theorem Opens.spares (h : Opens fs o fs') (hapart : ∀ k p, o = .file k p → fs.key path ≠ .ok k) :
    Files.Spares path fs fs' := by
  cases h with
  | standard => exact .refl path fs
  | errors => exact .refl path fs
  | file _ writes => exact writes.spares (hapart _ _ rfl)

/-! ## All outputs -/

/-- **No output is kept under the key of the path.** -/
def Apart (fs : Files) (path : Text) (os : List Output) : Prop :=
  ∀ k p, Output.file k p ∈ os → fs.key path ≠ .ok k

/-- The outputs are kept under keys. -/
def Keyed (os : List Output) : Prop := ∀ k p, Output.file k p ∈ os → Files.IsKey k

theorem Apart.spared (h : Apart fs path os) (hs : Files.Spares path fs fs') : Apart fs' path os :=
  fun k p hmem hkey => h k p hmem ((hs.key_eq_ok k).mp hkey)

/-- Opening outputs spares a path that is apart from them. -/
theorem openAll_spares {texts cs : List Text} (h : openAll fs texts = (os, fs', cs))
    (hapart : Apart fs path os) : Files.Spares path fs fs' ∧ Keyed os := by
  induction texts generalizing fs os fs' cs with
  | nil =>
    cases h
    exact ⟨.refl path fs, nofun⟩
  | cons t texts ih =>
    rw [openAll] at h
    split at h
    · rename_i o fs₁ hopen
      cases h
      have hopens := ofText_opens hopen
      have hspared : Files.Spares path fs fs₁ :=
        hopens.spares fun k p ho => hapart k p (List.mem_cons.mpr (Or.inl ho.symm))
      have htail : Apart fs path (openAll fs₁ texts).1 :=
        fun k p hmem => hapart k p (List.mem_cons_of_mem o hmem)
      obtain ⟨hspares, hkeyed⟩ := ih rfl (htail.spared hspared)
      refine ⟨hspared.trans hspares, fun k p hmem => ?_⟩
      rcases List.mem_cons.mp hmem with heq | hmem
      · exact hopens.isKey heq.symm
      · exact hkeyed k p hmem
    · cases h
      exact ih rfl hapart

theorem outputs_spares {s : LogSettings} (h : outputs fs s = (fs', .ok os))
    (hapart : Apart fs path os) : Files.Spares path fs fs' ∧ Keyed os := by
  unfold outputs at h
  split at h
  · cases h
    exact ⟨.refl path fs, by simp [Keyed]⟩
  split at h
  · rename_i os' fs₁ hopen
    cases h
    exact openAll_spares hopen hapart
  · cases h

/-- **Writing lines to outputs spares a path that is apart from them.** -/
theorem writeFiles_spares {lines : Text} (hkeyed : Keyed os) (hapart : Apart fs path os) :
    Files.Spares path fs (writeFiles fs os lines) := by
  unfold writeFiles
  induction os generalizing fs with
  | nil => exact .refl path fs
  | cons o os ih =>
    have hkeyed' : Keyed os := fun k p hmem => hkeyed k p (List.mem_cons_of_mem o hmem)
    have hapart' : Apart fs path os := fun k p hmem => hapart k p (List.mem_cons_of_mem o hmem)
    rw [List.foldl_cons]
    cases o with
    | standard => exact ih hkeyed' hapart'
    | errors => exact ih hkeyed' hapart'
    | file k p =>
      have hspared : Files.Spares path fs (fs.append k p lines).1 :=
        (Files.append_writes (hkeyed k p List.mem_cons_self)).spares
          (hapart k p List.mem_cons_self)
      exact hspared.trans (ih hkeyed' (hapart'.spared hspared))

/-! ## The files that settings name -/

section

variable {P : Text → Prop} {s : LogSettings}

/-- The path that the setting of an output names. -/
def Output.path? (t : Text) : Option Text :=
  if t.head? == some 0x2F then some t else (Locator.parse t).toOption.map Locator.path

/-- The settings of a log name a file that is kept under the key. -/
def Names (fs : Files) (s : LogSettings) (k : Text) : Prop :=
  ∃ t ∈ s.outputPaths, ∃ p, Output.path? t = some p ∧ fs.key p = .ok k

theorem ofPath_path {t k p : Text} (h : Output.ofPath fs t = .ok (.file k p, fs')) : p = t := by
  unfold Output.ofPath at h
  split at h
  · cases h
  split at h
  · cases h
  split at h
  · cases h
    rfl
  · cases h

theorem ofText_path {t k p : Text} (h : Output.ofText fs t = .ok (.file k p, fs')) :
    Output.path? t = some p := by
  unfold Output.ofText at h
  unfold Output.path?
  split at h
  · rename_i hroot
    rw [if_pos hroot, ofPath_path h]
  · rename_i hroot
    rw [if_neg hroot]
    split at h
    · cases h
    · rename_i u hparse
      split at h
      · cases h
      · split at h
        · cases h
        · rw [hparse, ofPath_path h]
          rfl

/-- The files among the outputs are kept under keys that satisfy `P`. -/
def Within (P : Text → Prop) (os : List Output) : Prop :=
  ∀ k p, Output.file k p ∈ os → Files.IsKey k ∧ P k

theorem Within.cons (ho : ∀ k p, o = .file k p → Files.IsKey k ∧ P k) (h : Within P os) :
    Within P (o :: os) := by
  intro k p hmem
  rcases List.mem_cons.mp hmem with heq | hmem
  · exact ho k p heq.symm
  · exact h k p hmem

/-- **Opening outputs writes to the files that they name only**, also if some cannot be opened. -/
theorem openAll_writesOnly {texts : List Text}
    (hP : ∀ t ∈ texts, ∀ p k, Output.path? t = some p → fs.key p = .ok k → P k) :
    Files.WritesOnly P fs (openAll fs texts).2.1 ∧ Within P (openAll fs texts).1 := by
  induction texts generalizing fs with
  | nil => exact ⟨.refl P fs, nofun⟩
  | cons t texts ih =>
    rw [openAll]
    split
    · rename_i o fs₁ hopen
      have hopens := ofText_opens hopen
      have hfile : ∀ k p, o = .file k p → P k := by
        rintro k p rfl
        cases hopens with
        | file key_eq _ => exact hP t List.mem_cons_self p k (ofText_path hopen) key_eq
      have hfirst : Files.WritesOnly P fs fs₁ := by
        cases hopens with
        | standard => exact .refl P fs
        | errors => exact .refl P fs
        | file key_eq writes => exact writes.only (hfile _ _ rfl)
      have hP₁ : ∀ t ∈ texts, ∀ p k, Output.path? t = some p → fs₁.key p = .ok k → P k :=
        fun t ht p k hpath hkey =>
          hP t (List.mem_cons_of_mem _ ht) p k hpath ((hfirst.key_eq_ok p k).mp hkey)
      obtain ⟨hrest, hwithin⟩ := ih hP₁
      exact ⟨hfirst.trans hrest, hwithin.cons fun k p ho => ⟨hopens.isKey ho, hfile k p ho⟩⟩
    · exact ih fun t ht => hP t (List.mem_cons_of_mem _ ht)

theorem outputs_writesOnly (hP : ∀ k, Names fs s k → P k) :
    Files.WritesOnly P fs (outputs fs s).1 ∧ ∀ os, (outputs fs s).2 = .ok os → Within P os := by
  have hnamed : ∀ t ∈ s.outputPaths, ∀ p k, Output.path? t = some p → fs.key p = .ok k → P k :=
    fun t ht p k hpath hkey => hP k ⟨t, ht, p, hpath, hkey⟩
  obtain ⟨hfiles, hwithin⟩ := openAll_writesOnly hnamed
  unfold outputs
  split
  · refine ⟨.refl P fs, fun os h => ?_⟩
    cases h
    simp [Within]
  split
  · rename_i os fs₁ hopen
    rw [hopen] at hfiles hwithin
    refine ⟨hfiles, fun os' h => ?_⟩
    cases h
    exact hwithin
  · rename_i os fs₁ cs hne hopen
    rw [hopen] at hfiles
    exact ⟨hfiles, nofun⟩

/-- Writing lines to outputs writes to their files only. -/
theorem writeFiles_writesOnly {lines : Text} (h : Within P os) :
    Files.WritesOnly P fs (writeFiles fs os lines) := by
  unfold writeFiles
  induction os generalizing fs with
  | nil => exact .refl P fs
  | cons o os ih =>
    have hrest : Within P os := fun k p hmem => h k p (List.mem_cons_of_mem o hmem)
    rw [List.foldl_cons]
    cases o with
    | standard => exact ih hrest
    | errors => exact ih hrest
    | file k p =>
      obtain ⟨hk, hP⟩ := h k p List.mem_cons_self
      exact ((Files.append_writes hk).only hP).trans (ih hrest)

end

end DetectorStream.Log
