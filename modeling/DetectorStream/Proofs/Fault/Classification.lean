import DetectorStream.Fault.Basic
import Mathlib.Data.List.Perm.Basic

/-!
# Which reports of a fault are asked for their kind

To ask a fault for a kind is a walk: the first report on the way in is asked, then the first one
below its cause, and so on. Of a join the walk follows the first branch that has a report, and it
never comes back for the others. So a report is overlooked exactly if it stands in a later branch of
a join of which an earlier branch has a report.

* `reports`: all reports of a fault; `spine`: those that the walk meets; `passed`: the others.
* **`isKind_eq`**: the walk, report by report.
* `isKind_iff`: a fault has the kinds of the reports that the walk meets.
* `reports_perm`: every report is met or passed by, once.
* `Straight`, `passed_eq_nil_iff`: when no report is passed by.
* **`isKind_extent`**: for which faults the kinds that are found are the kinds of all reports.
* `isKind_misses_joined`: a join of two reports that has not the kind of the second.
-/

namespace DetectorStream.Fault

/-! ## The reports of a fault -/

/-- All reports of a fault, outermost first, branches in order. -/
def reports : Fault → List Report
  | plain _ => []
  | raised r => [r]
  | wrapped r c => r :: c.reports
  | labelled _ c => c.reports
  | joined a b => a.reports ++ b.reports
  | joinedOne a => a.reports

/-- The first report on the way in, branches in order, with its cause. -/
def found? : Fault → Option (Report × Option Fault)
  | plain _ => none
  | raised r => some (r, none)
  | wrapped r c => some (r, some c)
  | labelled _ c => c.found?
  | joined a b => a.found?.or b.found?
  | joinedOne a => a.found?

/-- The reports that the walk meets. -/
def spine : Fault → List Report
  | plain _ => []
  | raised r => [r]
  | wrapped r c => r :: c.spine
  | labelled _ c => c.spine
  | joined a b => if a.first?.isSome then a.spine else b.spine
  | joinedOne a => a.spine

/-- The reports that the walk passes by. -/
def passed : Fault → List Report
  | plain _ => []
  | raised _ => []
  | wrapped _ c => c.passed
  | labelled _ c => c.passed
  | joined a b => if a.first?.isSome then a.passed ++ b.reports else b.passed
  | joinedOne a => a.passed

theorem first?_eq_head? (f : Fault) : f.first? = f.reports.head? := by
  induction f with
  | plain d => rfl
  | raised r => rfl
  | wrapped r c ih => rfl
  | labelled l c ih => exact ih
  | joined a b iha ihb => rw [first?, reports, iha, ihb, List.head?_append]
  | joinedOne a ih => exact ih

theorem first?_eq_none_iff (f : Fault) : f.first? = none ↔ f.reports = [] := by
  rw [first?_eq_head?, List.head?_eq_none_iff]

theorem first?_eq_found? (f : Fault) : f.first? = f.found?.map Prod.fst := by
  induction f with
  | plain d => rfl
  | raised r => rfl
  | wrapped r c ih => rfl
  | labelled l c ih => exact ih
  | joined a b iha ihb => rw [first?, found?, iha, ihb, Option.map_or]
  | joinedOne a ih => exact ih

/-- The search in a join ends in the first branch that has a report. -/
theorem found?_joined (a b : Fault) :
    (joined a b).found? = if a.first?.isSome then a.found? else b.found? := by
  rw [first?_eq_found?, found?]
  cases a.found? <;> rfl

/-! ## The walk -/

/-- **A fault is asked report by report**: the first one, and what stands below its cause. -/
theorem isKind_eq (k : Kind) (f : Fault) :
    f.isKind k =
      match f.found? with
      | none => false
      | some (r, cause) => r.kind == k || cause.any (isKind k) := by
  induction f with
  | plain d => rfl
  | raised r => exact (Bool.or_false _).symm
  | wrapped r c ih => rfl
  | labelled l c ih => exact ih
  | joined a b iha ihb =>
    rw [found?_joined, isKind]
    split
    · exact iha
    · exact ihb
  | joinedOne a ih => exact ih

/-- **A fault has the kinds of the reports that the walk meets.** -/
theorem isKind_iff (k : Kind) (f : Fault) : f.isKind k = true ↔ ∃ r ∈ f.spine, r.kind = k := by
  induction f with
  | plain d => simp [isKind, spine]
  | raised r => simp [isKind, spine]
  | wrapped r c ih => simp [isKind, spine, ih]
  | labelled l c ih => exact ih
  | joined a b iha ihb =>
    rw [isKind, spine]
    split
    · exact iha
    · exact ihb
  | joinedOne a ih => exact ih

/-- **Every report is met or passed by**, once. -/
theorem reports_perm (f : Fault) : f.reports.Perm (f.spine ++ f.passed) := by
  induction f with
  | plain d => exact .refl _
  | raised r => exact .refl _
  | wrapped r c ih => exact ih.cons r
  | labelled l c ih => exact ih
  | joined a b iha ihb =>
    rw [reports, spine, passed]
    cases ha : a.first? with
    | some r =>
      simp only [Option.isSome_some, if_true]
      rw [← List.append_assoc]
      exact iha.append_right b.reports
    | none =>
      simp only [Option.isSome_none, Bool.false_eq_true, if_false]
      rw [(first?_eq_none_iff a).mp ha, List.nil_append]
      exact ihb
  | joinedOne a ih => exact ih

/-! ## Faults of which no report is passed by -/

/-- Of the branches of every join at most one has reports. -/
def Straight : Fault → Prop
  | plain _ => True
  | raised _ => True
  | wrapped _ c => c.Straight
  | labelled _ c => c.Straight
  | joined a b => a.Straight ∧ b.Straight ∧ (a.reports = [] ∨ b.reports = [])
  | joinedOne a => a.Straight

theorem straight_of_reports {f : Fault} (h : f.reports = []) : f.Straight := by
  induction f with
  | plain d => trivial
  | raised r => trivial
  | wrapped r c ih => cases h
  | labelled l c ih => exact ih h
  | joined a b iha ihb =>
    obtain ⟨ha, hb⟩ := List.append_eq_nil_iff.mp h
    exact ⟨iha ha, ihb hb, .inl ha⟩
  | joinedOne a ih => exact ih h

/-- **No report is passed by exactly if no join has reports in two branches.** -/
theorem passed_eq_nil_iff (f : Fault) : f.passed = [] ↔ f.Straight := by
  induction f with
  | plain d => exact iff_of_true rfl trivial
  | raised r => exact iff_of_true rfl trivial
  | wrapped r c ih => exact ih
  | labelled l c ih => exact ih
  | joined a b iha ihb =>
    rw [passed, Straight]
    cases ha : a.first? with
    | some r =>
      have hne : a.reports ≠ [] := by
        rw [ne_eq, ← first?_eq_none_iff, ha]
        exact nofun
      simp only [Option.isSome_some, if_true]
      rw [List.append_eq_nil_iff, iha]
      constructor
      · rintro ⟨hstraight, hb⟩
        exact ⟨hstraight, straight_of_reports hb, .inr hb⟩
      · rintro ⟨hstraight, -, hb⟩
        exact ⟨hstraight, hb.resolve_left hne⟩
    | none =>
      have hnil := (first?_eq_none_iff a).mp ha
      simp only [Option.isSome_none, Bool.false_eq_true, if_false]
      rw [ihb]
      constructor
      · intro hstraight
        exact ⟨straight_of_reports hnil, hstraight, .inl hnil⟩
      · rintro ⟨-, hstraight, -⟩
        exact hstraight
  | joinedOne a ih => exact ih

/-! ## All kinds -/

/-- **How far asking for a kind reaches.** A fault has the kinds of the reports that the walk meets.
Every report is met or passed by, so the kinds that are found are those of all reports exactly if
every report that is passed by has the kind of one that is met; and nothing is passed by exactly if
no join has reports in two branches. -/
theorem isKind_extent (f : Fault) :
    (∀ k, f.isKind k = true ↔ ∃ r ∈ f.spine, r.kind = k) ∧
      f.reports.Perm (f.spine ++ f.passed) ∧
      ((∀ k, f.isKind k = true ↔ ∃ r ∈ f.reports, r.kind = k) ↔
        ∀ r ∈ f.passed, ∃ r' ∈ f.spine, r'.kind = r.kind) ∧
      (f.passed = [] ↔ f.Straight) := by
  have hmem : ∀ r, r ∈ f.reports ↔ r ∈ f.spine ∨ r ∈ f.passed := fun r =>
    f.reports_perm.mem_iff.trans List.mem_append
  refine ⟨fun k => isKind_iff k f, reports_perm f, ⟨fun h r hr => ?_, fun h k => ?_⟩,
    passed_eq_nil_iff f⟩
  · exact (isKind_iff r.kind f).mp ((h r.kind).mpr ⟨r, (hmem r).mpr (.inr hr), rfl⟩)
  · rw [isKind_iff]
    constructor
    · rintro ⟨r, hr, hk⟩
      exact ⟨r, (hmem r).mpr (.inl hr), hk⟩
    · rintro ⟨r, hr, rfl⟩
      rcases (hmem r).mp hr with hmet | hpassed
      · exact ⟨r, hmet, rfl⟩
      · exact h r hpassed

/-- **A join of two reports has the kind of the first alone.** -/
theorem isKind_misses_joined :
    let f := joined (report .configuration "a") (report .encoding "b")
    f.isKind .encoding = false ∧ ∃ r ∈ f.reports, r.kind = .encoding :=
  ⟨rfl, ⟨.encoding, "b", [], false⟩, by decide, rfl⟩

end DetectorStream.Fault
