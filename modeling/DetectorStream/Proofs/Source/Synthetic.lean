import DetectorStream.Proofs.Number.Numerals
import DetectorStream.Proofs.Source.Formats
import DetectorStream.Proofs.Source.Query

/-!
# Synthetic events by name

Synthesizing draws each event once, its detector and its time in turn. A source of the scheme
`synth` is an image, so all detectors come before all times: the sequence is drawn twice from the
seed, and each time one half of every event is left out. Both give the same events, whatever the
numbers are drawn from.

* `Synth.replay_eq`: what is drawn of the events is a part of what is drawn.
* `Synth.synthesizeBy_answers`: synthesizing is a request for the events.
* `Synth.opening_columns`: two replays are the image of one sequence.
* `Synth.identifier`, `Synth.ofLocator_identifier`: parameters as an identifier.
* **`Synth.load_identifier_iff`**: loading the identifier and synthesizing come to the same.
-/

namespace DetectorStream.Synth

variable {τ : Type} {d : Draws τ} {p : Params} {a : Allocator}

/-! ## The sequence -/

/-- Drawing a part of each event is drawing the events and taking the part. -/
theorem drawOnto_eq {α : Type} (part : Event → α) (n : Nat) (s : State τ) (es : Array Event) :
    drawOnto d p part n s (es.map part) = (drawOnto d p id n s es).map part := by
  induction n generalizing s es with
  | zero => rfl
  | succ n ih =>
    rw [drawOnto, drawOnto]
    simp only [← Array.map_push]
    exact ih _ _

/-- **What is drawn of the events is a part of what is drawn.** -/
theorem replay_eq {α : Type} (part : Event → α) : replay d p part = (replay d p id).map part := by
  have hdraw := drawOnto_eq (d := d) (p := p) part p.events.toInt.toNat (State.start d p) #[]
  rwa [Array.map_empty] at hdraw

theorem size_drawOnto (n : Nat) (s : State τ) (es : Array Event) :
    (drawOnto d p id n s es).size = es.size + n := by
  induction n generalizing s es with
  | zero => rfl
  | succ n ih =>
    rw [drawOnto]
    simp only
    rw [ih, Array.size_push]
    omega

theorem size_replay (d : Draws τ) (p : Params) :
    (replay d p id).size = p.events.toInt.toNat := by
  unfold replay
  rw [size_drawOnto]
  exact Nat.zero_add _

theorem Params.normalize_events_nonneg (p : Params) : 0 ≤ p.normalize.events.toInt := by
  unfold Params.normalize
  simp only
  split_ifs with hevents
  · decide
  · rw [Int64.lt_iff_toInt_lt] at hevents
    exact Int.not_lt.mp hevents

/-- **Synthesizing is a request for the events.** -/
theorem synthesizeBy_answers (d : Draws τ) (p : Params) (a : Allocator) :
    a.Answers p.normalize.events.toInt (fun b => b = .live (replay d p.normalize id))
      (synthesizeBy d p a) :=
  Allocator.Answers.make (fun _ => rfl) (a.check_answers p.normalize.events)

/-! ## As an image -/

/-- **Two replays are the image of one sequence.** -/
theorem opening_columns (d : Draws τ) (p : Params) :
    Nev.opening p.events.toInt.toNat ++ columns d p = Nev.image (replay d p id).toList := by
  unfold columns Nev.columnBytes Nev.opening Nev.image
  rw [replay_eq Event.detector, replay_eq Event.timestamp, ← size_replay d p]
  simp only [Array.toList_map, List.flatMap_map, Array.length_toList, List.append_assoc]
  rfl

/-! ## By name -/

/-- The parameters as a query names them. -/
def Params.query (p : Params) : List (Text × Text) := [
  ("events", Decimal.ofInt p.events.toInt),
  ("detectors", Decimal.ofInt p.detectors.toInt),
  ("seed", Decimal.ofInt p.seed.toInt),
  ("period", Decimal.ofInt p.period.toInt)]

/-- The identifier `synth://?events=..&detectors=..&seed=..&period=..`. -/
def identifier (p : Params) : Text := "synth://?" ++ Locator.queryText p.query

/-- Parameters that are in range: none of them is replaced by its default. -/
structure Params.InRange (p : Params) : Prop where
  events : 0 ≤ p.events.toInt
  detectors : 1 ≤ p.detectors.toInt
  period : 1 ≤ p.period.toInt

theorem Params.InRange.normalize (h : p.InRange) : p.normalize = p := by
  have hevents : ¬ p.events < 0 := by
    rw [Int64.lt_iff_toInt_lt]
    exact Int.not_lt.mpr h.events
  have hdetectors : ¬ p.detectors ≤ 0 := by
    rw [Int64.le_iff_toInt_le]
    exact Int.not_le.mpr h.detectors
  have hperiod : ¬ p.period ≤ 0 := by
    rw [Int32.le_iff_toInt_le]
    exact Int.not_le.mpr h.period
  unfold Params.normalize
  rw [if_neg hevents, if_neg hdetectors, if_neg hperiod]

/-- The parameters of a query are plain text. -/
theorem Params.query_plain (p : Params) : Locator.ArePlain p.query := by
  intro kv hkv
  simp only [Params.query, List.mem_cons, List.not_mem_nil, or_false] at hkv
  rcases hkv with rfl | rfl | rfl | rfl
  all_goals exact ⟨rfl, Text.isPlain_ofInt _⟩

/-- A parameter that is a number in range is read. -/
theorem number_eq {u : Locator} {key what : Text} {bits : Nat} {least : Option Int} {i : Int}
    (hparam : u.param key = Decimal.ofInt i)
    (hparse : Numeral.parseInt 10 bits (Decimal.ofInt i) = .ok i)
    (hleast : ∀ l ∈ least, l ≤ i) : number u key what bits least = .ok (some i) := by
  have hempty : (Decimal.ofInt i).isEmpty = false := by simp [Decimal.ofInt_ne_nil i]
  have hany : least.any (i < ·) = false := by
    cases least with
    | none => rfl
    | some l => simpa using hleast l rfl
  unfold number
  simp only [hparam, hempty, hparse, hany, Bool.false_eq_true, if_false]

/-- **A locator with the query of parameters in range stands for them.** -/
theorem ofLocator_query (h : p.InRange) {u : Locator} (hu : u.query = Locator.queryText p.query) :
    Params.ofLocator u = (p, none) := by
  have hparams : u.params = p.query := Locator.params_queryText p.query_plain nofun hu
  have hparam : ∀ key, u.param key = (p.query.lookup key).getD [] := by
    intro key
    rw [Locator.param, hparams]
  have hevents : number u "events" "event count" 64 (some 0) = .ok (some p.events.toInt) :=
    number_eq (hparam _) (Numeral.parseInt_word _) (by simpa using h.events)
  have hdetectors : number u "detectors" "detector count" 64 (some 1) =
      .ok (some p.detectors.toInt) :=
    number_eq (hparam _) (Numeral.parseInt_word _) (by simpa using h.detectors)
  have hseed : number u "seed" "seed" 64 none = .ok (some p.seed.toInt) :=
    number_eq (hparam _) (Numeral.parseInt_word _) nofun
  have hperiod : number u "period" "period" 32 (some 1) = .ok (some p.period.toInt) :=
    number_eq (hparam _) (Numeral.parseInt_half _) (by simpa using h.period)
  unfold Params.ofLocator
  simp only [hevents, hdetectors, hseed, hperiod, Option.map_some, Option.getD_some,
    Int64.ofInt_toInt, Int32.ofInt_toInt]

/-- The source of synthetic events: an image whose columns are yet to be drawn. -/
def resource (d : Draws τ) (p : Params) : Source.Resource where
  name := "synth.nev"
  head := Nev.opening p.events.toInt.toNat
  rest := fun _ => columns d p

/-- An identifier of parameters in range is opened as their image. -/
theorem opens_identifier (d : Draws τ) (h : p.InRange) :
    ∃ u, Locator.ofIdentifier (identifier p) = .ok u ∧ u.scheme = "synth" ∧
      Source.openSynth d u = .ok (resource d p) := by
  let u : Locator := { scheme := "synth", query := Locator.queryText p.query }
  have hparams : Params.ofLocator u = (p, none) := ofLocator_query h rfl
  refine ⟨u, Locator.ofIdentifier_queryText p.query_plain nofun, rfl, ?_⟩
  unfold Source.openSynth
  simp only [hparams, h.normalize]
  rfl

theorem loadFrom_identifier {σ : Type} (o : Source.Origins) (d : Draws τ) (a : Allocator)
    (h : p.InRange) (w : σ) : (Source.loadFrom (o.openersBy d) a (identifier p) w).1 =
      Source.decode a (resource d p) := by
  obtain ⟨u, hlocator, hscheme, hopen⟩ := opens_identifier d h
  have hopener : o.openersBy (σ := σ) d "synth" = some (.quiet (Source.openSynth d)) := rfl
  unfold Source.loadFrom Source.loadWith
  simp only [hlocator, hscheme, hopener, Source.Opener.quiet, hopen]

/-- **That image is a well-formed source of the events.** -/
theorem resource_holds (d : Draws τ) (p : Params) : (resource d p).Holds (replay d p id) := by
  have hsize := size_replay d p
  have hlt := p.events.toInt_lt
  exact .intro .none "synth.nev" .nev { bytes := (resource d p).contents }
    (show Algorithm.ofPath "synth.nev" = _ by decide +kernel) (by decide +kernel) rfl
    (.nev _ _ (by omega) (opening_columns d p))

/-- **Loading the identifier of parameters and synthesizing them come to the same**: both give the
same batch, both are refused, or both are more than a column can address. -/
theorem load_identifier_iff {σ : Type} (o : Source.Origins) (d : Draws τ) (a : Allocator)
    (h : p.InRange) (w : σ) :
    let loaded := (Source.loadFrom (o.openersBy d) a (identifier p) w).1
    let direct := synthesizeBy d p a
    (∀ b, loaded = .ok b ↔ direct = .ok b) ∧
      ((∃ f, loaded = .error (.fault f) ∧ f.kind = .allocation) ↔
        ∃ f, direct = .error (.fault f) ∧ f.kind = .allocation) ∧
      (loaded = .error .crash ↔ direct = .error .crash) ∧
      ∀ f, loaded = .error (.fault f) → f.kind = .allocation := by
  have hload : a.Answers p.events.toInt (fun b => b = .live (replay d p id))
      (Source.loadFrom (o.openersBy d) a (identifier p) w).1 := by
    have hanswer := Source.decode_answers a (resource_holds d p)
    rw [size_replay, Int.toNat_of_nonneg h.events] at hanswer
    rwa [loadFrom_identifier o d a h w]
  have hdirect : a.Answers p.events.toInt (fun b => b = .live (replay d p id))
      (synthesizeBy d p a) := by
    have hanswer := synthesizeBy_answers d p a
    rwa [h.normalize] at hanswer
  intro loaded direct
  refine ⟨fun b => ?_, ?_, ?_, fun f hf => ?_⟩
  · exact hload.granted_iff.trans hdirect.granted_iff.symm
  · exact hload.refused_iff.trans hdirect.refused_iff.symm
  · exact hload.crashed_iff.trans hdirect.crashed_iff.symm
  · exact (hload.of_fault hf).2

/-- A source is loaded with the numbers of the generator. -/
theorem load_eq (o : Source.Origins) (a : Allocator) (name : Text) :
    Source.load o a name = (Source.loadFrom (o.openersBy Generator.draws) a name ()).1 := rfl

/-- Two events by name are the two that are synthesized, and one octet less is too little for
them. -/
theorem load_identifier_two :
    let p : Params := ⟨2, 5, -3, 100⟩
    let name : Text := "synth://?events=2&detectors=5&seed=-3&period=100"
    (∃ b, Source.load {} ⟨24⟩ name = .ok b ∧ synthesize p ⟨24⟩ = .ok b ∧ b.size = 2) ∧
      ∃ f, Source.load {} ⟨23⟩ name = .error (.fault f) ∧ f.kind = .allocation := by
  intro p name
  have hname : identifier p = name := by decide +kernel
  have hrange : p.InRange := ⟨by decide, by decide, by decide⟩
  have hwide := load_identifier_iff {} Generator.draws ⟨24⟩ hrange ()
  have hnarrow := load_identifier_iff {} Generator.draws ⟨23⟩ hrange ()
  rw [hname] at hwide hnarrow
  have hcheck : (Allocator.mk 24).check p.events = .ok () := by decide
  have hdirect : synthesize p ⟨24⟩ = .ok (.live (replay Generator.draws p id)) := by
    unfold synthesize synthesizeBy
    simp only [hrange.normalize, hcheck]
  have hsize : (Batch.live (replay Generator.draws p id)).size = 2 := by
    rw [Batch.size, Batch.events, size_replay]
    rfl
  have hrefused : ∃ f, synthesize p ⟨23⟩ = .error (.fault f) ∧ f.kind = .allocation :=
    (synthesizeBy_answers Generator.draws p ⟨23⟩).refused_iff.mpr fun hfits =>
      absurd hfits.2 (by decide)
  rw [load_eq, load_eq]
  exact ⟨⟨_, (hwide.1 _).mpr hdirect, hdirect, hsize⟩, hnarrow.2.1.mpr hrefused⟩

end DetectorStream.Synth
