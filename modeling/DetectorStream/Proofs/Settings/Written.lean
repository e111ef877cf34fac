import DetectorStream.Proofs.Number.Numerals
import DetectorStream.Proofs.Yaml.Spreading
import DetectorStream.Settings.Document

/-!
# Settings, written

The keys of the settings, their numbers and their durations have no dollar sign. So nothing in their
document refers to the environment but what a text of the settings refers to.

* `FloatStyle.dollar_not_mem_render`, `Duration.dollar_not_mem_text`: numbers and durations.
* `Settings.texts`: the texts in the settings.
* `Settings.written?_inert`: a field in whose texts nothing opens is written so.
* **`Settings.document_not_opens`**: a reference opens in the document only if one opens in a text.
-/

namespace DetectorStream

open Text (Opens)

/-! ## Numbers and durations -/

namespace Decimal

theorem dollar_not_mem_ofNat (n : Nat) : 0x24 ∉ ofNat n :=
  fun h => absurd (isDigit_of_mem_ofNat n 0x24 h) (by decide)

theorem dollar_not_mem_ofInt (i : Int) : 0x24 ∉ ofInt i :=
  fun h => absurd (isNumeral_of_mem_ofInt i 0x24 h) (by decide)

theorem dollar_not_mem_zeros (n : Nat) : 0x24 ∉ List.replicate n (0x30 : UInt8) :=
  fun h => absurd (List.eq_of_mem_replicate h) (by decide)

theorem dollar_not_mem_padded (width n : Nat) : 0x24 ∉ padded width n :=
  List.not_mem_append (dollar_not_mem_zeros _) (dollar_not_mem_ofNat n)

end Decimal

open Decimal

theorem FloatStyle.dollar_not_mem_exponentText (e : Int) : 0x24 ∉ exponentText e := by
  refine List.not_mem_append ?_ (dollar_not_mem_padded 2 e.natAbs)
  split <;> decide

theorem FloatStyle.dollar_not_mem_layout (style : FloatStyle) (d : Nat) (k : Int) :
    0x24 ∉ style.layout d k := by
  have hdigits := dollar_not_mem_ofNat d
  have htake (n : Nat) : 0x24 ∉ (ofNat d).take n := fun h => hdigits (List.mem_of_mem_take h)
  have hdrop (n : Nat) : 0x24 ∉ (ofNat d).drop n := fun h => hdigits (List.mem_of_mem_drop h)
  unfold layout
  dsimp only
  split
  · refine List.not_mem_append (List.not_mem_append (htake 1) ?_) (dollar_not_mem_exponentText _)
    split
    · exact List.not_mem_nil
    · exact List.not_mem_cons_of_ne_of_not_mem (by decide) (hdrop 1)
  · split
    · exact List.not_mem_append (List.not_mem_append (by decide) (dollar_not_mem_zeros _)) hdigits
    · split
      · exact List.not_mem_append hdigits (dollar_not_mem_zeros _)
      · exact List.not_mem_append (List.not_mem_append (htake _) (by decide)) (hdrop _)

theorem FloatStyle.dollar_not_mem_render (style : FloatStyle) (f : Float) :
    0x24 ∉ style.render f := by
  unfold render
  split
  · decide
  · split <;> decide
  · refine List.not_mem_append (by split <;> decide) ?_
    split
    · decide
    · exact dollar_not_mem_layout style _ _

theorem Settings.dollar_not_mem_numberText (f : Float) : 0x24 ∉ numberText f := by
  unfold numberText
  split
  · split <;> decide
  · split
    · decide
    · exact FloatStyle.general.dollar_not_mem_render f

theorem Duration.dollar_not_mem_fraction (places n : Nat) : 0x24 ∉ fraction places n := by
  have htail : 0x24 ∉ Text.trimRight (· == 0x30) (padded places (n % Nat.pow 10 places)) := by
    intro h
    unfold Text.trimRight at h
    rw [List.mem_reverse] at h
    exact dollar_not_mem_padded _ _ (List.mem_reverse.mp ((List.dropWhile_sublist _).mem h))
  unfold fraction
  refine List.not_mem_append (dollar_not_mem_ofNat _) ?_
  split
  · exact List.not_mem_nil
  · exact List.not_mem_cons_of_ne_of_not_mem (by decide) htail

theorem Duration.dollar_not_mem_magnitudeText (n : Nat) : 0x24 ∉ magnitudeText n := by
  have hseconds : 0x24 ∉ fraction 9 (n % 60000000000) ++ ("s" : Text) :=
    List.not_mem_append (dollar_not_mem_fraction _ _) (by decide)
  unfold magnitudeText
  split
  · decide
  split
  · exact List.not_mem_append (dollar_not_mem_ofNat _) (by decide)
  split
  · exact List.not_mem_append (dollar_not_mem_fraction _ _) (by decide)
  split
  · exact List.not_mem_append (dollar_not_mem_fraction _ _) (by decide)
  dsimp only
  split
  · exact hseconds
  split
  · exact List.not_mem_append (List.not_mem_append (dollar_not_mem_ofNat _) (by decide)) hseconds
  · refine List.not_mem_append (List.not_mem_append (List.not_mem_append (List.not_mem_append
      (dollar_not_mem_ofNat _) (by decide)) (dollar_not_mem_ofNat _)) (by decide)) hseconds

theorem Duration.dollar_not_mem_text (d : Duration) : 0x24 ∉ d.text := by
  unfold Duration.text
  dsimp only
  split
  · exact List.not_mem_cons_of_ne_of_not_mem (by decide) (dollar_not_mem_magnitudeText _)
  · exact dollar_not_mem_magnitudeText _

namespace Settings

variable {s : Settings}

/-! ## The document -/

/-- The texts in a field. -/
def fieldTexts (s : Settings) : Slot → List Text
  | .text l => [l.get s]
  | .texts l _ => l.get s
  | _ => []

/-- The texts in the settings. -/
def texts (s : Settings) : List Text := Field.all.flatMap fun f => s.fieldTexts f.slot

theorem written?_inert {slot : Slot} {w : Yaml.Written} (h : s.written? slot = some w)
    (htexts : ∀ t ∈ s.fieldTexts slot, Text.isUtf8 t = true → ¬ Opens t) : w.Inert := by
  cases slot with
  | text l =>
    cases h
    exact htexts _ (List.mem_singleton_self _)
  | texts l omitEmpty =>
    unfold written? at h
    dsimp only at h
    split at h
    · cases h
    · cases h
      exact htexts
  | word l =>
    cases h
    exact dollar_not_mem_ofInt _
  | shortWord l =>
    cases h
    exact dollar_not_mem_ofInt _
  | flag l =>
    cases h
    show 0x24 ∉ (if l.get s then ("true" : Text) else "false")
    split <;> decide
  | number l =>
    cases h
    exact dollar_not_mem_numberText _
  | duration l =>
    cases h
    exact fun _ => Text.not_opens_of_no_dollar (Duration.dollar_not_mem_text _)

/-- There is no dollar sign in the keys. -/
theorem dollar_not_mem_keys {f : Field} (h : f ∈ Field.all) :
    0x24 ∉ Text.ofString f.group ∧ 0x24 ∉ Text.ofString f.name := by
  have hall : ∀ k ∈ Field.all.map fun f => (Text.ofString f.group, Text.ofString f.name),
      0x24 ∉ k.1 ∧ 0x24 ∉ k.2 := by decide +kernel
  exact hall _ (List.mem_map_of_mem h)

/-- **A reference opens in the document only if one opens in a text of the settings.** -/
theorem document_not_opens (h : ∀ t ∈ s.texts, Text.isUtf8 t = true → ¬ Opens t) :
    ¬ Opens s.document := by
  refine Yaml.Entry.render_not_opens fun e he => ?_
  obtain ⟨f, hf, hentry⟩ := List.mem_filterMap.mp he
  obtain ⟨w, hw, rfl⟩ := Option.map_eq_some_iff.mp hentry
  obtain ⟨hgroup, hname⟩ := dollar_not_mem_keys hf
  exact ⟨hgroup, hname, written?_inert hw fun t ht => h t (List.mem_flatMap.mpr ⟨f, hf, ht⟩)⟩

end Settings

end DetectorStream
