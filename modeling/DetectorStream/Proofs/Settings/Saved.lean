import DetectorStream.Proofs.Files.Writing
import DetectorStream.Proofs.Settings.Written
import DetectorStream.Settings.Load

/-!
# Settings, saved and loaded

Saved settings are a document with their fields. Loading replaces the references in it before it is
read, and reads it over the standard settings. So what is loaded is what was saved unless a text of
the settings refers to the environment.

* `Settings.laidOver`: the fields that are written, put into other settings.
* `Settings.laidOver_standard`: over the standard settings, that is all fields.
* `Settings.ReadsBack`: the document sets the fields that are written.
* **`Settings.load_saved`**: what is loaded after saving.
* `Settings.load_misses_saved`: a text that refers to a variable is not loaded as it was saved.
-/

namespace DetectorStream

open Text (Opens)

namespace Settings

variable {s : Settings} {fs fs' : Files} {path contents : Text}

/-! ## Over other settings -/

/-- A field as it is in `s`, put into `base`; one that is not written stays as it is. -/
def overField (s base : Settings) : Slot → Settings
  | .text l => l.set (l.get s) base
  | .texts l omitEmpty => if omitEmpty && (l.get s).isEmpty then base else l.set (l.get s) base
  | .word l => l.set (l.get s) base
  | .shortWord l => l.set (l.get s) base
  | .flag l => l.set (l.get s) base
  | .number l => l.set (l.get s) base
  | .duration l => l.set (l.get s) base

/-- The fields of `s` that are written, put into `base`. -/
def laidOver (s base : Settings) : Settings :=
  Field.all.foldl (fun base f => s.overField base f.slot) base

/-- All fields are written but a list of outputs that is empty. -/
theorem laidOver_eq (s base : Settings) : s.laidOver base =
    if s.log.outputPaths.isEmpty then
      { s with log := { s.log with outputPaths := base.log.outputPaths } }
    else s := by
  unfold laidOver Field.all
  simp only [List.foldl_append, Field.leading, Field.ofTransportSection, Field.ofFlowSection,
    Field.trailing, Field.ofLogSection, List.foldl_cons, List.foldl_nil, overField,
    Field.ofTransport, Field.ofFlow, Field.ofLog, Bool.false_and, Bool.false_eq_true, if_false,
    Bool.true_and]

/-- **Over the standard settings, what is written is all of the settings**: a list that is left out
is empty there too. -/
theorem laidOver_standard (s : Settings) : s.laidOver standard = s := by
  rw [laidOver_eq]
  split
  · rename_i hempty
    have hpaths : standard.log.outputPaths = s.log.outputPaths := (List.isEmpty_iff.mp hempty).symm
    rw [hpaths]
  · rfl

/-- **The document of the settings reads back**: read over any settings, it sets every field that is
written to what it is, and leaves the others alone. -/
def ReadsBack (s : Settings) : Prop :=
  ∃ n, Yaml.Node.parse s.document = some (some n) ∧
    ∀ base : Settings, base.ofDocument n = some (s.laidOver base)

theorem ReadsBack.parse_eq (h : s.ReadsBack) : parse s.document = .ok s := by
  obtain ⟨n, hn, hfields⟩ := h
  unfold parse
  rw [hn, Option.bind_some]
  dsimp only
  rw [hfields standard, laidOver_standard]

/-! ## Saving and loading -/

/-- A file that was saved has the document. -/
theorem expanded_saved (hsave : s.save fs path = (fs', none))
    (hfile : fs'.node path = .ok (.file contents)) (env : Environment) :
    expanded fs' env path = .ok (env.substitute s.document) := by
  have hwrite : fs.write path s.document = (fs', none) := by
    unfold save at hsave
    generalize fs.write path s.document = written at hsave ⊢
    obtain ⟨files, fault⟩ := written
    cases fault with
    | none => exact hsave
    | some f => cases hsave
  have hcontents := Files.write_file hwrite hfile
  unfold expanded Files.read
  rw [hfile, hcontents]

/-- **What is loaded after saving** is what the document says with its references replaced. As long
as that leaves the document as it is, it is what was saved, and that holds in every environment if
no reference opens in a text of the settings. -/
theorem load_saved (hsave : s.save fs path = (fs', none))
    (hfile : fs'.node path = .ok (.file contents)) (hreads : s.ReadsBack) (env : Environment) :
    load fs' env path = parse (env.substitute s.document) ∧
      (env.substitute s.document = s.document → load fs' env path = .ok s) ∧
      ((∀ t ∈ s.texts, Text.isUtf8 t = true → ¬ Opens t) → load fs' env path = .ok s) := by
  have hload : load fs' env path = parse (env.substitute s.document) := by
    unfold load
    rw [expanded_saved hsave hfile env]
    rfl
  have hsame (h : env.substitute s.document = s.document) : load fs' env path = .ok s := by
    rw [hload, h, hreads.parse_eq]
  exact ⟨hload, hsame, fun htexts => hsame (env.substitute_eq (document_not_opens htexts))⟩

/-! ## A dollar sign and a reference -/

/-- Settings that name a source and a topic. -/
def sourced (source : Text) : Settings := { source := source, transport := { topic := "out" } }

/-- A key with a text, a whole number or a truth value. -/
def keyed (tag name value : Text) : Yaml.Node × Yaml.Node :=
  (.scalar "!!str" name, .scalar tag value)

/-- The document of such settings as a tree, if the source is written as it is. -/
def sourcedTree (source : Text) : Yaml.Node :=
  .mapping [keyed "!!str" "source" source, keyed "!!str" "source_name" "neventgen",
    keyed "!!int" "multiplier" "1", keyed "!!int" "time_offset" "0", keyed "!!int" "bytes" "0",
    keyed "!!str" "format" "ev42", keyed "!!int" "memory_limit" "0",
    (.scalar "!!str" "transport", .mapping [keyed "!!str" "kind" "kafka",
      (.scalar "!!str" "brokers", .sequence [.scalar "!!str" "localhost:9092"]),
      keyed "!!str" "topic" "out", keyed "!!str" "client_id" "neventgen",
      keyed "!!str" "acks" "all", keyed "!!str" "compression" "none",
      keyed "!!bool" "idempotent" "false", keyed "!!int" "max_message_bytes" "10485760",
      keyed "!!str" "timeout" "10s", keyed "!!int" "retries" "3",
      keyed "!!str" "retry_backoff" "100ms", keyed "!!str" "max_retry_backoff" "5s"]),
    (.scalar "!!str" "flow", .mapping [keyed "!!int" "events_per_message" "1000",
      keyed "!!str" "delay" "0s", keyed "!!int" "rate" "0", keyed "!!int" "repeat" "1",
      keyed "!!str" "duration" "0s"]),
    keyed "!!str" "report_interval" "10s", keyed "!!str" "metrics_addr" "",
    keyed "!!bool" "tracing" "false",
    (.scalar "!!str" "log", .mapping [keyed "!!str" "level" "info",
      keyed "!!bool" "development" "false", keyed "!!str" "encoding" "json"])]

theorem sourced_readsBack {source : Text}
    (h : Yaml.Node.parse (sourced source).document = some (some (sourcedTree source))) :
    (sourced source).ReadsBack := by
  refine ⟨sourcedTree source, h, fun base => ?_⟩
  rw [laidOver_eq]
  rfl

theorem dollar_readsBack : (sourced "$HOME/run.nev").ReadsBack :=
  sourced_readsBack (by decide +kernel)

theorem reference_readsBack : (sourced "$\x7bA\x7d").ReadsBack :=
  sourced_readsBack (by decide +kernel)

/-- The settings in a file of their own. -/
theorem save_new (s : Settings) :
    s.save .empty "out.yaml" = ({ nodes := [("out.yaml", .file s.document)] }, none) := by
  have hopen : Files.empty.openToWrite "out.yaml" true =
      .ok ("out.yaml", { nodes := [("out.yaml", .file [])] }) := by decide +kernel
  have hget : ({ nodes := [("out.yaml", .file [])] } : Files).get? "out.yaml" =
      some (.file []) := by decide +kernel
  have hput : ({ nodes := [("out.yaml", .file [])] } : Files).put "out.yaml" (.file s.document) =
      { nodes := [("out.yaml", .file s.document)] } := rfl
  have hwrite : Files.empty.write "out.yaml" s.document =
      ({ nodes := [("out.yaml", .file s.document)] }, none) := by
    unfold Files.write
    rw [hopen]
    dsimp only
    unfold Files.append
    rw [hget]
    dsimp only [Files.accepted]
    rw [List.nil_append, hput, if_neg (Nat.lt_irrefl _)]
    rfl
  unfold save
  rw [hwrite]
  rfl

/-- A bare dollar sign is loaded as it was saved. -/
theorem load_saved_dollar :
    let s := sourced "$HOME/run.nev"
    ∃ fs contents, s.save .empty "out.yaml" = (fs, none) ∧
      fs.node "out.yaml" = .ok (.file contents) ∧ s.ReadsBack ∧
      load fs [("HOME", "/root")] "out.yaml" = .ok s := by
  intro s
  have hfile : ({ nodes := [("out.yaml", .file s.document)] } : Files).node "out.yaml" =
      .ok (.file s.document) := rfl
  have hbraces : ∀ t ∈ s.texts, 0x7B ∉ t := by decide +kernel
  refine ⟨_, _, save_new s, hfile, dollar_readsBack, ?_⟩
  exact (load_saved (save_new s) hfile dollar_readsBack [("HOME", "/root")]).2.2 fun t ht _ =>
    Text.not_opens_of_no_brace (hbraces t ht)

/-- **A text that refers to a variable is not loaded as it was saved.** -/
theorem load_misses_saved :
    let s := sourced "$\x7bA\x7d"
    ∃ fs contents, s.save .empty "out.yaml" = (fs, none) ∧
      fs.node "out.yaml" = .ok (.file contents) ∧ s.ReadsBack ∧
      load fs [("A", "$HOME/run.nev")] "out.yaml" = .ok (sourced "$HOME/run.nev") ∧
      sourced "$HOME/run.nev" ≠ s := by
  intro s
  have hfile : ({ nodes := [("out.yaml", .file s.document)] } : Files).node "out.yaml" =
      .ok (.file s.document) := rfl
  have hreplaced : Environment.substitute [("A", "$HOME/run.nev")] s.document =
      (sourced "$HOME/run.nev").document := by decide +kernel
  have hsource : s.source ≠ (sourced "$HOME/run.nev").source := by decide
  refine ⟨_, _, save_new s, hfile, reference_readsBack, ?_, fun h => hsource (h ▸ rfl)⟩
  unfold load
  rw [expanded_saved (save_new s) hfile, hreplaced]
  exact dollar_readsBack.parse_eq

end Settings

end DetectorStream
