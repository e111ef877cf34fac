import DetectorStream.Delivery.Kafka.Producer

/-!
# Settings that a producer can be set up from

Three settings of a transport are for the producer alone: how many copies have to be confirmed, how
records are compressed, and whether the producer guards against duplicates. A producer is set up
exactly from settings whose words it knows and which do not contradict each other; otherwise the first
one that makes no sense is named.

* `Acks.ofText_eq_ok_iff`, `Packing.ofText_eq_ok_iff`: what the words mean.
* `Producer.Valid`: settings that make sense.
* `Producer.Refused`: what is said about other ones.
* **`Producer.ofSettings_isOk_iff`**, **`Producer.ofSettings_eq_error_iff`**: from which settings a producer
  is set up, and with which complaint others are refused.
-/

namespace DetectorStream.Delivery.Kafka

variable {t : Text} {s : TransportSettings} {f : Fault}

namespace Acks

/-- The words for a number of confirmations. -/
inductive Named : Text → Acks → Prop
  | all : Named "all" all
  | minusOne : Named "-1" all
  | empty : Named [] all
  | leader : Named "1" leader
  | none : Named "0" none

/-- The complaint about any other word. -/
def complaint (t : Text) : Fault := Settings.broken ("unknown acks value " ++ Text.quote t)

theorem ofText_eq_ok_iff {a : Acks} : ofText t = .ok a ↔ Named t a := by
  constructor
  · intro h
    unfold ofText at h
    split at h
    · rename_i hword
      cases h
      simp only [Bool.or_eq_true, beq_iff_eq, List.isEmpty_iff] at hword
      rcases hword with (rfl | rfl) | rfl
      · exact .all
      · exact .minusOne
      · exact .empty
    split at h
    · rename_i hword
      cases h
      cases beq_iff_eq.mp hword
      exact .leader
    split at h
    · rename_i hword
      cases h
      cases beq_iff_eq.mp hword
      exact .none
    · cases h
  · intro h
    cases h <;> rfl

theorem ofText_eq_error (h : ∀ a, ¬ Named t a) : ofText t = .error (complaint t) := by
  cases hread : ofText t with
  | ok a => exact absurd (ofText_eq_ok_iff.mp hread) (h a)
  | error e =>
    unfold ofText at hread
    split at hread
    · cases hread
    split at hread
    · cases hread
    split at hread
    · cases hread
    · exact hread.symm

end Acks

namespace Packing

/-- The words for a compression: its name, and none at all for no compression. -/
inductive Named : Text → Packing → Prop
  | empty : Named [] none
  | name (p : Packing) : Named p.name p

/-- The complaint about any other word. -/
def complaint (t : Text) : Fault := Settings.broken ("unknown compression " ++ Text.quote t)

theorem ofText_eq_ok_iff {p : Packing} : ofText t = .ok p ↔ Named t p := by
  constructor
  · intro h
    unfold ofText at h
    split at h
    · rename_i hword
      cases h
      cases List.isEmpty_iff.mp hword
      exact .empty
    split at h
    · rename_i q hfound
      cases h
      have hname := List.find?_some hfound
      cases beq_iff_eq.mp hname
      exact .name p
    · cases h
  · intro h
    cases h with
    | empty => rfl
    | name => cases p <;> rfl

theorem ofText_eq_error (h : ∀ p, ¬ Named t p) : ofText t = .error (complaint t) := by
  cases hread : ofText t with
  | ok p => exact absurd (ofText_eq_ok_iff.mp hread) (h p)
  | error e =>
    unfold ofText at hread
    split at hread
    · cases hread
    split at hread
    · cases hread
    · exact hread.symm

end Packing

namespace Producer

/-- **Settings that make sense**: the words are known, and a producer that guards against duplicates
has all copies confirmed. -/
structure Valid (s : TransportSettings) : Prop where
  acks : ∃ a, Acks.Named s.acks a
  packing : ∃ p, Packing.Named s.compression p
  guarded : s.idempotent = true → Acks.Named s.acks .all

/-- **What is said about other settings**: the first of the three that makes no sense. -/
inductive Refused (s : TransportSettings) : Fault → Prop
  | acks (hacks : ∀ a, ¬ Acks.Named s.acks a) : Refused s (Acks.complaint s.acks)
  | packing {a : Acks} (hacks : Acks.Named s.acks a)
      (hpacking : ∀ p, ¬ Packing.Named s.compression p) : Refused s (Packing.complaint s.compression)
  | unguarded {a : Acks} {p : Packing} (hacks : Acks.Named s.acks a)
      (hpacking : Packing.Named s.compression p) (hguarded : s.idempotent = true) (hall : a ≠ .all) :
      Refused s (Settings.broken "idempotent producer requires acks=all")

theorem Refused.ofSettings (h : Refused s f) : ofSettings s = .error f := by
  unfold Producer.ofSettings
  cases h with
  | acks hacks => rw [Acks.ofText_eq_error hacks]
  | packing hacks hpacking =>
    rw [Acks.ofText_eq_ok_iff.mpr hacks, Packing.ofText_eq_error hpacking]
  | unguarded hacks hpacking hguarded hall =>
    rw [Acks.ofText_eq_ok_iff.mpr hacks, Packing.ofText_eq_ok_iff.mpr hpacking]
    exact if_pos (by rw [hguarded, bne_iff_ne.mpr hall]; rfl)

theorem Valid.ofSettings (h : Valid s) : ∃ p, ofSettings s = .ok p := by
  obtain ⟨a, hacks⟩ := h.acks
  obtain ⟨p, hpacking⟩ := h.packing
  have hfits : ¬ (s.idempotent && a != .all) = true := by
    rw [Bool.and_eq_true, bne_iff_ne]
    rintro ⟨hguarded, hall⟩
    have hsame := Acks.ofText_eq_ok_iff.mpr (h.guarded hguarded)
    rw [Acks.ofText_eq_ok_iff.mpr hacks] at hsame
    exact hall (Except.ok.inj hsame)
  unfold Producer.ofSettings
  rw [Acks.ofText_eq_ok_iff.mpr hacks, Packing.ofText_eq_ok_iff.mpr hpacking]
  exact ⟨_, if_neg hfits⟩

/-- Settings make sense, or something is said about them. -/
theorem valid_or_refused (s : TransportSettings) : Valid s ∨ ∃ f, Refused s f := by
  by_cases hacks : ∃ a, Acks.Named s.acks a
  · obtain ⟨a, ha⟩ := hacks
    by_cases hpacking : ∃ p, Packing.Named s.compression p
    · obtain ⟨p, hp⟩ := hpacking
      by_cases hclash : s.idempotent = true ∧ a ≠ .all
      · exact .inr ⟨_, .unguarded ha hp hclash.1 hclash.2⟩
      · refine .inl ⟨⟨a, ha⟩, ⟨p, hp⟩, fun hguarded => ?_⟩
        have hall : a = .all := Decidable.byContradiction fun hne => hclash ⟨hguarded, hne⟩
        rwa [hall] at ha
    · exact .inr ⟨_, .packing ha (not_exists.mp hpacking)⟩
  · exact .inr ⟨_, .acks (not_exists.mp hacks)⟩

/-- **A producer is set up exactly from settings that make sense.** -/
theorem ofSettings_isOk_iff : (∃ p, ofSettings s = .ok p) ↔ Valid s := by
  refine ⟨?_, Valid.ofSettings⟩
  rintro ⟨p, hp⟩
  rcases valid_or_refused s with hvalid | ⟨f, hrefused⟩
  · exact hvalid
  · cases hp.symm.trans hrefused.ofSettings

/-- **Others are refused for the first setting that makes no sense.** -/
theorem ofSettings_eq_error_iff : ofSettings s = .error f ↔ Refused s f := by
  refine ⟨fun h => ?_, Refused.ofSettings⟩
  rcases valid_or_refused s with hvalid | ⟨e, hrefused⟩
  · obtain ⟨p, hp⟩ := hvalid.ofSettings
    cases hp.symm.trans h
  · cases hrefused.ofSettings.symm.trans h
    exact hrefused

end Producer

end DetectorStream.Delivery.Kafka
