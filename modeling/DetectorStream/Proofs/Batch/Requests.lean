import DetectorStream.Batch.Basic
import Mathlib.Algebra.Group.Nat.Defs
import Mathlib.Tactic.SplitIfs

/-!
# The answer to a request

Whatever makes a batch asks the allocator for as many events as it needs, and the allocator has
three answers: it grants the request, it refuses it with a fault of its own kind, or it grants what
no column can address, and that is a crash. `Answers` says which answer there is, in exact numbers,
and what comes of a request that is granted.

An allocator goes through its rules one by one, in words of sixty-four bits. `Admits` says in exact
numbers which requests come through: those that a column can address and that keep to the limit, if
there is one.

* `Allocator.Admits`: the batches that an allocator admits.
* **`Allocator.check_eq_ok_iff`**: a request is granted exactly if it is admitted.
* `Allocator.capacity`, `Allocator.Fits`: how many octets a batch may take.
* `Allocator.Answers`: the answer to a request for so many events.
* `Allocator.admits_iff`: what is admitted fits, and a column can address it.
* `Allocator.Passes`: a request gets through the check.
* **`Allocator.check_answers`**: a check answers as the exact numbers say.
* `Batch.new_answers`, `Batch.ofEvents_answers`, `Batch.ofColumns_answers`: so do the ways to make a
  batch.
-/

namespace DetectorStream

namespace Allocator

/-! ## What is admitted -/

section Admission

variable {a : Allocator} {n : Nat}

/-- **The allocator admits a batch of `n` events**: a column can address them, and their octets keep
to the limit, which counts only if it is positive. -/
def Admits (a : Allocator) (n : Nat) : Prop :=
  (n : Int) ≤ maxColumn ∧ (0 < a.limit.toInt → ((n * eventSize : Nat) : Int) ≤ a.limit.toInt)

theorem Admits.lt_word (h : a.Admits n) : n < 2 ^ 63 := by
  have := h.1
  unfold maxColumn at this
  omega

/-- A request is refused for its size or for the limit. -/
theorem refusal?_eq_none_iff (hn : n < 2 ^ 63) :
    a.refusal? (Int64.ofNat n) = none ↔
      (n : Int) ≤ maxCount ∧ ¬ (0 < a.limit.toInt ∧ a.limit.toInt < n * eventSize) := by
  unfold refusal?
  simp only [Int64.toInt_ofNat_of_lt hn]
  rw [if_neg (by omega)]
  by_cases hcount : maxCount < (n : Int)
  · rw [if_pos hcount]
    simp only [reduceCtorEq, false_iff]
    rintro ⟨hle, -⟩
    omega
  · rw [if_neg hcount]
    by_cases hlimit : 0 < a.limit.toInt ∧ a.limit.toInt < n * eventSize
    · rw [if_pos hlimit]
      simp [hlimit]
    · rw [if_neg hlimit]
      simp only [true_iff]
      exact ⟨by omega, hlimit⟩

/-- **A request is granted exactly if it is admitted.** -/
theorem check_eq_ok_iff (hn : n < 2 ^ 63) : a.check (Int64.ofNat n) = .ok () ↔ a.Admits n := by
  have hrefusal := refusal?_eq_none_iff (a := a) hn
  unfold check Admits
  cases h : a.refusal? (Int64.ofNat n) with
  | some f =>
    rw [h] at hrefusal
    have hrules := mt hrefusal.mpr (by simp)
    simp only [reduceCtorEq, false_iff]
    rintro ⟨hcolumn, hlimit⟩
    unfold maxColumn at hcolumn
    unfold maxCount at hrules
    exact hrules ⟨by omega, fun hl => by have := hlimit hl.1; omega⟩
  | none =>
    have hlimit := (hrefusal.mp h).2
    simp only [Int64.toInt_ofNat_of_lt hn]
    split
    · simp only [reduceCtorEq, false_iff]
      rintro ⟨hcolumn, -⟩
      omega
    · simp only [true_iff]
      exact ⟨by omega, fun hl => by omega⟩

end Admission

/-! ## Answers -/

variable {α : Type} {a : Allocator} {n : Int} {Right : α → Prop} {r : Except Stop α}

/-- The most octets that a batch may take: the limit, or else what a word can count. -/
def capacity (a : Allocator) : Int :=
  if 0 < a.limit.toInt then a.limit.toInt else 0x7FFFFFFFFFFFFFFF

/-- **`n` events fit**: their octets keep to the capacity. -/
def Fits (a : Allocator) (n : Int) : Prop := 0 ≤ n ∧ eventSize * n ≤ a.capacity

/-- **The answer to a request for `n` events**, where `Right` is what a granted request comes to:
one that does not fit is refused, and one that fits is granted as far as a column can address it. -/
inductive Answers (a : Allocator) (n : Int) (Right : α → Prop) : Except Stop α → Prop
  | granted (x : α) (fits : a.Fits n) (addressed : n ≤ maxColumn) (right : Right x) :
      Answers a n Right (.ok x)
  | refused (f : Fault) (misfit : ¬ a.Fits n) (kind : f.kind = .allocation) :
      Answers a n Right (.error (.fault f))
  | crashed (fits : a.Fits n) (beyond : maxColumn < n) : Answers a n Right (.error .crash)

/-! ## Capacity -/

theorem fits_iff (h : 0 < a.limit.toInt) : a.Fits n ↔ 0 ≤ n ∧ eventSize * n ≤ a.limit.toInt := by
  unfold Fits capacity
  rw [if_pos h]

theorem capacity_le (a : Allocator) : a.capacity ≤ 0x7FFFFFFFFFFFFFFF := by
  have hlimit := a.limit.toInt_lt
  unfold capacity
  split_ifs
  · omega
  · exact Int.le_refl _

/-- What fits is no larger than the largest count. -/
theorem Fits.le_maxCount (h : a.Fits n) : n ≤ maxCount := by
  have hfits := h.2
  have hcapacity := a.capacity_le
  unfold eventSize at hfits
  unfold maxCount
  omega

theorem not_fits_of_maxCount_lt (h : maxCount < n) : ¬ a.Fits n :=
  fun hfits => Int.not_lt.mpr hfits.le_maxCount h

/-- What is admitted fits, and a column can address it. -/
theorem admits_iff {n : Nat} : a.Admits n ↔ a.Fits n ∧ (n : Int) ≤ maxColumn := by
  unfold Admits Fits capacity
  constructor
  · rintro ⟨hcolumn, hlimit⟩
    refine ⟨⟨by omega, ?_⟩, hcolumn⟩
    unfold maxColumn at hcolumn
    unfold eventSize at hlimit ⊢
    split_ifs with hpos
    · have hle := hlimit hpos
      omega
    · omega
  · rintro ⟨⟨-, hfits⟩, hcolumn⟩
    refine ⟨hcolumn, fun hpos => ?_⟩
    rw [if_pos hpos] at hfits
    unfold eventSize at hfits ⊢
    omega

/-! ## Answers -/

/-- A request that is granted fits, and a column can address it. -/
theorem Answers.of_ok {x : α} (h : a.Answers n Right r) (hr : r = .ok x) :
    a.Fits n ∧ n ≤ maxColumn ∧ Right x := by
  subst hr
  cases h with
  | granted _ fits addressed right => exact ⟨fits, addressed, right⟩

/-- A fault is the refusal of a request that does not fit. -/
theorem Answers.of_fault {f : Fault} (h : a.Answers n Right r) (hr : r = .error (.fault f)) :
    ¬ a.Fits n ∧ f.kind = .allocation := by
  subst hr
  cases h with
  | refused _ misfit kind => exact ⟨misfit, kind⟩

/-- When a request for something known is granted. -/
theorem Answers.granted_iff {x y : α} (h : a.Answers n (fun z => z = x) r) :
    r = .ok y ↔ (a.Fits n ∧ n ≤ maxColumn) ∧ y = x := by
  cases h with
  | granted z fits addressed right =>
    subst right
    exact ⟨fun hr => ⟨⟨fits, addressed⟩, (Except.ok.inj hr).symm⟩, fun hr => hr.2 ▸ rfl⟩
  | refused f misfit kind => exact ⟨nofun, fun hr => absurd hr.1.1 misfit⟩
  | crashed fits beyond => exact ⟨nofun, fun hr => absurd hr.1.2 (by omega)⟩

/-- A request is refused exactly if it does not fit. -/
theorem Answers.refused_iff (h : a.Answers n Right r) :
    (∃ f, r = .error (.fault f) ∧ f.kind = .allocation) ↔ ¬ a.Fits n := by
  cases h with
  | granted x fits addressed right => exact ⟨nofun, fun hmisfit => absurd fits hmisfit⟩
  | refused f misfit kind => exact ⟨fun _ => misfit, fun _ => ⟨f, rfl, kind⟩⟩
  | crashed fits beyond => exact ⟨nofun, fun hmisfit => absurd fits hmisfit⟩

/-- A request ends in a crash exactly if it fits and no column can address it. -/
theorem Answers.crashed_iff (h : a.Answers n Right r) :
    r = .error .crash ↔ a.Fits n ∧ maxColumn < n := by
  cases h with
  | granted x fits addressed right => exact ⟨nofun, fun hr => absurd hr.2 (by omega)⟩
  | refused f misfit kind => exact ⟨nofun, fun hr => absurd hr.1 misfit⟩
  | crashed fits beyond => exact ⟨fun _ => ⟨fits, beyond⟩, fun _ => rfl⟩

/-- A request for what fits is granted, as far as a column can address it. -/
theorem Answers.of_fits (h : a.Answers n Right r) (hfits : a.Fits n) (hcolumn : n ≤ maxColumn) :
    ∃ x, r = .ok x ∧ Right x := by
  cases h with
  | granted x fits addressed right => exact ⟨x, rfl, right⟩
  | refused f misfit kind => exact absurd hfits misfit
  | crashed fits beyond => omega

/-- A request for what is admitted is granted. -/
theorem Answers.of_admits {n : Nat} (h : a.Answers n Right r) (hadmits : a.Admits n) :
    ∃ x, r = .ok x ∧ Right x := by
  obtain ⟨hfits, hcolumn⟩ := admits_iff.mp hadmits
  exact h.of_fits hfits hcolumn

/-- The kind of a refusal is that of an allocation. -/
theorem kind_of_refusal? {count : Int64} {f : Fault} (h : a.refusal? count = some f) :
    f.kind = .allocation := by
  unfold refusal? at h
  simp only at h
  split_ifs at h
  all_goals
    cases h
    rfl

/-- A request is refused exactly if it does not fit. -/
theorem refusal?_isNone_iff {count : Int64} :
    a.refusal? count = none ↔ a.Fits count.toInt := by
  unfold refusal? Fits capacity maxCount eventSize
  simp only
  constructor
  · intro h
    split_ifs at h with hneg hlarge hlimit
    split_ifs with hpos
    · exact ⟨by omega, by omega⟩
    · exact ⟨by omega, by omega⟩
  · rintro ⟨hnonneg, hfits⟩
    split_ifs at hfits with hpos
    · have hlt := a.limit.toInt_lt
      rw [if_neg (by omega), if_neg (by omega), if_neg (by omega)]
    · rw [if_neg (by omega), if_neg (by omega), if_neg (by omega)]

/-- **A request for `n` events gets through the check**: a word counts them, and the request is not
refused. -/
def Passes (a : Allocator) (n : Int) : Prop :=
  ∃ count : Int64, count.toInt = n ∧ a.refusal? count = none

/-- What fits gets through the check. -/
theorem passes_iff : a.Passes n ↔ a.Fits n := by
  constructor
  · rintro ⟨count, rfl, hnone⟩
    exact refusal?_isNone_iff.mp hnone
  · intro hfits
    have hnonneg := hfits.1
    have hle := hfits.le_maxCount
    unfold maxCount at hle
    have hword : (Int64.ofInt n).toInt = n := Int64.toInt_ofInt_of_le (by omega) (by omega)
    exact ⟨Int64.ofInt n, hword, refusal?_isNone_iff.mpr (hword.symm ▸ hfits)⟩

/-- **A check answers as the exact numbers say.** -/
theorem check_answers (a : Allocator) (count : Int64) :
    a.Answers count.toInt (fun _ => True) (a.check count) := by
  unfold check
  cases h : a.refusal? count with
  | some f =>
    have hmisfit : ¬ a.Fits count.toInt := by
      rw [← refusal?_isNone_iff, h]
      exact nofun
    exact .refused f hmisfit (kind_of_refusal? h)
  | none =>
    have hfits := refusal?_isNone_iff.mp h
    simp only
    split_ifs with hcolumn
    · exact .crashed hfits hcolumn
    · exact .granted () hfits (by omega) trivial

/-- So does a check of as many events as are at hand. -/
theorem checkSize_answers (a : Allocator) (n : Nat) :
    a.Answers n (fun _ => True) (a.checkSize n) := by
  unfold checkSize
  split_ifs with hlarge
  · refine .refused _ (not_fits_of_maxCount_lt ?_) rfl
    unfold maxCount
    omega
  · have hanswer := a.check_answers (Int64.ofNat n)
    rwa [Int64.toInt_ofNat_of_lt (by omega)] at hanswer

/-- What a granted request comes to may be said more loosely. -/
theorem Answers.mono {Loose : α → Prop} (h : a.Answers n Right r)
    (hloose : ∀ x, Right x → Loose x) : a.Answers n Loose r := by
  cases h with
  | granted x fits addressed right => exact .granted x fits addressed (hloose x right)
  | refused f misfit kind => exact .refused f misfit kind
  | crashed fits beyond => exact .crashed fits beyond

/-- What is made once a check has passed is the answer to the request. -/
theorem Answers.make {c : Except Stop Unit} {x : α} (hx : a.Fits n → Right x) :
    a.Answers n (fun _ => True) c →
      a.Answers n Right (match c with | .error e => .error e | .ok () => .ok x) := by
  intro h
  cases h with
  | granted _ fits addressed _ => exact .granted x fits addressed (hx fits)
  | refused f misfit kind => exact .refused f misfit kind
  | crashed fits beyond => exact .crashed fits beyond

end Allocator

namespace Batch

variable {a : Allocator}

/-- **A batch of zero events** is what is granted for its count. -/
theorem new_answers (a : Allocator) (count : Int64) :
    a.Answers count.toInt (fun b : Batch => (b.size : Int) = count.toInt) (new a count) := by
  refine Allocator.Answers.make (fun hfits => ?_) (a.check_answers count)
  have hnonneg := hfits.1
  simp only [size, events, Array.size_replicate]
  omega

/-- **A batch of given events** is what is granted for their number. -/
theorem ofEvents_answers (a : Allocator) (es : Array Event) :
    a.Answers es.size (fun b => b = live es) (ofEvents a es) :=
  Allocator.Answers.make (fun _ => rfl) (a.checkSize_answers es.size)

/-- So is a batch of columns of the same length. -/
theorem ofColumns_answers (a : Allocator) {c : Columns}
    (h : c.ids.length = c.timestamps.length) :
    a.Answers c.ids.length (fun b => b = live c.events.toArray) (ofColumns a c) := by
  have hsize : c.events.toArray.size = c.ids.length := by
    simp [Columns.events, h]
  unfold ofColumns
  rw [if_neg (fun hne => hne h), ← hsize]
  exact ofEvents_answers a c.events.toArray

/-- Columns of different lengths make no batch. -/
theorem ofColumns_of_ne {c : Columns} (h : c.ids.length ≠ c.timestamps.length) :
    ∃ f, ofColumns a c = .error (.fault f) ∧ f.kind = .malformedSource := by
  unfold ofColumns
  rw [if_pos h]
  exact ⟨_, rfl, rfl⟩

end Batch

end DetectorStream
