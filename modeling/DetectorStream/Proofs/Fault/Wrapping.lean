import DetectorStream.Proofs.Fault.Classification

/-!
# Faults that are wrapped

A report that is put above a fault keeps the retry hint of the first report below it. So a fault
that is wrapped under its own kind is classified as before, whatever tree it is; and a transmission
failure keeps its hint through any number of reports and labels, to be told as soon as the outermost
report is a transmission failure again.

* `wrap_kind`, `wrap_isKind`: a fault under its own kind.
* `Layer`, `enclose`: reports and labels around a fault.
* **`first?_enclose`**: what is found of a fault through its layers.
* **`rewrap_transparent`**: wrapping under the own kind changes no classification, and a hint is kept.
-/

namespace DetectorStream.Fault

/-! ## One report above -/

/-- A report above a fault that has the kind of the fault is classified as the fault is. -/
theorem wrap_kind (f : Fault) (message : Text) :
    (wrap f.kind message f).kind = f.kind ∧
      (wrap f.kind message f).isRetryable = f.isRetryable := by
  refine ⟨rfl, ?_⟩
  unfold wrap isRetryable kind
  simp only [first?]
  cases f.first? with
  | none => rfl
  | some r => rfl

/-- A fault has its kind, unless it has no report at all. -/
theorem isKind_kind (f : Fault) : f.isKind f.kind = true ↔ f.reports ≠ [] := by
  unfold kind
  rw [isKind_eq, first?_eq_found?, ne_eq, ← first?_eq_none_iff, first?_eq_found?]
  cases f.found? with
  | none => simp
  | some p => simp

/-- **Under its own kind a fault has the kinds that it had.** Without a report it was of no kind, and
becomes internal. -/
theorem wrap_isKind (f : Fault) (message : Text) (k : Kind) :
    (wrap f.kind message f).isKind k = true ↔
      f.isKind k = true ∨ (f.reports = [] ∧ k = .internal) := by
  have hwrap : (wrap f.kind message f).isKind k = (f.kind == k || f.isKind k) := rfl
  rw [hwrap, Bool.or_eq_true, beq_iff_eq]
  by_cases hreports : f.reports = []
  · have hkind : f.kind = .internal := by
      unfold kind
      rw [(first?_eq_none_iff f).mpr hreports]
      rfl
    rw [hkind]
    constructor
    · rintro (rfl | hk)
      · exact .inr ⟨hreports, rfl⟩
      · exact .inl hk
    · rintro (hk | ⟨-, rfl⟩)
      · exact .inr hk
      · exact .inl rfl
  · constructor
    · rintro (rfl | hk)
      · exact .inl ((isKind_kind f).mpr hreports)
      · exact .inl hk
    · rintro (hk | ⟨hnil, -⟩)
      · exact .inr hk
      · exact absurd hnil hreports

/-! ## Any number of layers -/

/-- What is put around a fault. -/
inductive Layer
  | report (kind : Kind) (message : Text)
  | label (text : Text)

/-- Put a layer around a fault. -/
def Layer.around : Layer → Fault → Fault
  | report kind message, f => wrap kind message f
  | label text, f => labelled text f

/-- The kind of a layer that is a report. -/
def Layer.kind? : Layer → Option Kind
  | report kind _ => some kind
  | label _ => none

/-- A fault within layers, the outermost first. -/
def enclose (layers : List Layer) (f : Fault) : Fault := layers.foldr Layer.around f

/-- The kind of the outermost report of layers around a fault whose first report has the kind
`inner`. -/
def outermost (layers : List Layer) (inner : Kind) : Kind :=
  (layers.findSome? Layer.kind?).getD inner

/-- **Through its layers a fault has the kind of the outermost report, and its own retry hint.** -/
theorem first?_enclose {f : Fault} {r : Report} (h : f.first? = some r) (layers : List Layer) :
    ∃ r', (enclose layers f).first? = some r' ∧ r'.kind = outermost layers r.kind ∧
      r'.retryable = r.retryable := by
  induction layers with
  | nil => exact ⟨r, h, rfl, rfl⟩
  | cons l layers ih =>
    obtain ⟨r', hfirst, hkind, hretry⟩ := ih
    cases l with
    | label text => exact ⟨r', hfirst, hkind, hretry⟩
    | report kind message =>
      refine ⟨⟨kind, message, [], r'.retryable⟩, ?_, rfl, hretry⟩
      have hinner : (layers.foldr Layer.around f).first? = some r' := hfirst
      simp only [enclose, List.foldr_cons, Layer.around, wrap, first?, hinner, Option.map_some,
        Option.getD_some]

theorem first?_transmission (hint : Bool) (message : Text) (cause : Option Fault) :
    (transmission hint message cause).first? = some ⟨.transmission, message, [], hint⟩ := by
  cases cause <;> rfl

/-- A transmission failure within layers is one that may be tried again exactly if its hint says so
and the outermost report is a transmission failure. -/
theorem enclose_transmission (layers : List Layer) (hint : Bool) (message : Text)
    (cause : Option Fault) :
    (enclose layers (transmission hint message cause)).kind = outermost layers .transmission ∧
      (enclose layers (transmission hint message cause)).isRetryable =
        (outermost layers .transmission == .transmission && hint) := by
  obtain ⟨r, hfirst, hkind, hretry⟩ :=
    first?_enclose (first?_transmission hint message cause) layers
  have houtermost : r.kind = outermost layers .transmission := hkind
  have hhint : r.retryable = hint := hretry
  unfold kind isRetryable
  rw [hfirst, ← houtermost, ← hhint]
  exact ⟨rfl, rfl⟩

/-- **Wrapping a fault under its own kind changes no classification.** Whatever tree the fault is, it
keeps its kind and whether it may be tried again, and it has the kinds that it had; only a fault
without any report has a kind afterwards that it had not, which is internal. Through any layers of
reports and labels a transmission failure keeps its retry hint: it is told exactly if the outermost
report is a transmission failure. -/
theorem rewrap_transparent :
    (∀ (f : Fault) (message : Text),
      let w := wrap f.kind message f
      w.kind = f.kind ∧ w.isRetryable = f.isRetryable ∧
        ∀ k, w.isKind k = true ↔ f.isKind k = true ∨ (f.reports = [] ∧ k = .internal)) ∧
    ∀ (layers : List Layer) (hint : Bool) (message : Text) (cause : Option Fault),
      let f := enclose layers (transmission hint message cause)
      f.kind = outermost layers .transmission ∧
        f.isRetryable = (outermost layers .transmission == .transmission && hint) := by
  refine ⟨fun f message => ?_, enclose_transmission⟩
  obtain ⟨hkind, hretry⟩ := wrap_kind f message
  exact ⟨hkind, hretry, wrap_isKind f message⟩

end DetectorStream.Fault
