import DetectorStream.Settings.Substitution
import Mathlib.Data.List.Infix

/-!
# Texts that refer to nothing

A reference to the environment opens with a dollar sign and a brace, a name, and either the closing
brace or the mark that sets off a text to stand in. A text in which nothing like that stands is left
as it is, whatever the variables are. The octets of an opening are few, so other octets keep
openings apart: a text can be spread out, with such octets in between, and no opening comes about.

* `Reference.IsOpening`, `Text.Opens`: an opening, and a text that has one.
* **`Environment.substitute_eq`**: a text that has none is left as it is.
* `Reference.separates`: the octets that openings do not have.
* `Text.Shut`: texts that end with such an octet, and can be put one after the other.
* `Text.Spread`: a text, spread out.
* **`Text.Spread.opens`**: spreading a text out brings about no opening.
-/

namespace DetectorStream

variable {a b t u v w : Text} {x : UInt8}

namespace Reference

/-- **How a reference opens**: a dollar sign, a brace and a name, and then the end or what sets off
the text that stands in. -/
def IsOpening (w : Text) : Prop :=
  ∃ name, isName name = true ∧
    (w = [0x24, 0x7B] ++ name ++ [0x7D] ∨ w = [0x24, 0x7B] ++ name ++ [0x3A, 0x2D])

/-- The octets that openings do not have. -/
def separates (x : UInt8) : Bool :=
  !(isNameOctet x || ([0x24, 0x7B, 0x7D, 0x3A, 0x2D] : Text).elem x)

theorem IsOpening.head (h : IsOpening w) : ∃ v, w = 0x24 :: v := by
  obtain ⟨name, -, rfl | rfl⟩ := h
  · exact ⟨_, rfl⟩
  · exact ⟨_, rfl⟩

theorem IsOpening.not_separates (h : IsOpening w) : ∀ x ∈ w, separates x = false := by
  obtain ⟨name, hname, hw⟩ := h
  have hoctets : ∀ x ∈ name, separates x = false := by
    intro x hx
    unfold isName at hname
    rw [Bool.and_eq_true, List.all_eq_true] at hname
    unfold separates
    rw [hname.1 x hx]
    rfl
  intro x hx
  have hmem : x ∈ name ∨ x ∈ ([0x24, 0x7B, 0x7D, 0x3A, 0x2D] : Text) := by
    rcases hw with rfl | rfl <;>
      simp only [List.mem_append, List.mem_cons, List.not_mem_nil, or_false] at hx ⊢ <;> tauto
  rcases hmem with hx | hx
  · exact hoctets x hx
  · have hmarks : ([0x24, 0x7B, 0x7D, 0x3A, 0x2D] : Text).all (fun y => !separates y) = true := by
      decide
    simpa using List.all_eq_true.mp hmarks x hx

/-- Whatever is read as a reference begins with an opening. -/
theorem read?_opening {r : Reference × Text} (h : read? t = some r) :
    ∃ w, IsOpening w ∧ w <+: t := by
  unfold read? at h
  split at h
  · rename_i t
    dsimp only at h
    split at h
    · cases h
    · rename_i hname
      have hname : isName (t.takeWhile isNameOctet) = true := by simpa using hname
      have hsplit := t.takeWhile_append_dropWhile (p := isNameOctet)
      split at h
      · rename_i rest hrest
        refine ⟨_, ⟨_, hname, Or.inl rfl⟩, rest, ?_⟩
        rw [hrest] at hsplit
        conv => rhs; rw [← hsplit]
        simp
      · rename_i rest hrest
        refine ⟨_, ⟨_, hname, Or.inr rfl⟩, rest, ?_⟩
        rw [hrest] at hsplit
        conv => rhs; rw [← hsplit]
        simp
      · cases h
  · cases h

end Reference

open Reference (IsOpening separates)

namespace Text

/-! ## Openings -/

/-- **A reference opens somewhere in the text.** -/
def Opens (t : Text) : Prop := ∃ w, IsOpening w ∧ w <:+: t

theorem Opens.mono (h : Opens t) (hpart : t <:+: u) : Opens u := by
  obtain ⟨w, hw, hwt⟩ := h
  exact ⟨w, hw, hwt.trans hpart⟩

/-- Without a dollar sign nothing opens. -/
theorem not_opens_of_no_dollar (h : 0x24 ∉ t) : ¬ Opens t := by
  rintro ⟨w, hw, hpart⟩
  obtain ⟨v, rfl⟩ := hw.head
  exact h (hpart.mem List.mem_cons_self)

/-- A bare dollar sign opens nothing, as long as there is no brace. -/
theorem not_opens_of_no_brace (h : 0x7B ∉ t) : ¬ Opens t := by
  rintro ⟨w, ⟨name, -, rfl | rfl⟩, hpart⟩
  · exact h (hpart.mem (by simp))
  · exact h (hpart.mem (by simp))

/-- Nothing opens before the first dollar sign. -/
theorem Opens.of_append (h : 0x24 ∉ a) (hopens : Opens (a ++ b)) : Opens b := by
  induction a with
  | nil => exact hopens
  | cons c a ih =>
    rw [List.mem_cons, not_or] at h
    refine ih h.2 ?_
    obtain ⟨w, hw, hpart⟩ := hopens
    obtain ⟨v, rfl⟩ := hw.head
    rcases List.infix_cons_iff.mp hpart with hstart | hpart
    · exact absurd (List.cons_prefix_cons.mp hstart).1 h.1
    · exact ⟨_, hw, hpart⟩

/-- What has no separating octet lies before the first of them, if it begins before it. -/
theorem prefix_of_separates (h : ∀ y ∈ w, separates y = false) (hx : separates x = true)
    (hstart : w <+: a ++ x :: b) : w <+: a := by
  induction w generalizing a with
  | nil => exact List.nil_prefix
  | cons y w ih =>
    cases a with
    | nil =>
      have hhead : y = x := (List.cons_prefix_cons.mp hstart).1
      rw [← hhead, h y List.mem_cons_self] at hx
      cases hx
    | cons c a =>
      obtain ⟨rfl, htail⟩ := List.cons_prefix_cons.mp hstart
      exact List.cons_prefix_cons.mpr ⟨rfl, ih (fun z hz => h z (List.mem_cons_of_mem y hz)) htail⟩

/-- What opens, opens before a separating octet or after it. -/
theorem Opens.of_separates (hx : separates x = true) (h : Opens (a ++ x :: b)) :
    Opens a ∨ Opens b := by
  obtain ⟨w, hw, hpart⟩ := h
  induction a with
  | nil =>
    rcases List.infix_cons_iff.mp hpart with hstart | hpart
    · have hnil : w <+: [] := prefix_of_separates hw.not_separates hx hstart
      exact Or.inl ⟨w, hw, hnil.isInfix⟩
    · exact Or.inr ⟨w, hw, hpart⟩
  | cons c a ih =>
    rcases List.infix_cons_iff.mp hpart with hstart | hpart
    · exact Or.inl ⟨w, hw, (prefix_of_separates hw.not_separates hx hstart).isInfix⟩
    · exact (ih hpart).imp_left fun hopens => hopens.mono (List.suffix_cons c a).isInfix

/-- The text ends with a separating octet. -/
def Ended (t : Text) : Prop := ∃ a x, separates x = true ∧ t = a ++ [x]

theorem Ended.after (h : Ended b) (a : Text) : Ended (a ++ b) := by
  obtain ⟨b, x, hx, rfl⟩ := h
  exact ⟨a ++ b, x, hx, (List.append_assoc a b [x]).symm⟩

/-- **Nothing opens in the text, nor across its end**, whatever follows. -/
structure Shut (t : Text) : Prop where
  not_opens : ¬ Opens t
  ended : t = [] ∨ Ended t

theorem Shut.nil : Shut [] := ⟨not_opens_of_no_dollar List.not_mem_nil, Or.inl rfl⟩

/-- What follows a shut text opens on its own or not at all. -/
theorem Shut.append_not_opens (ha : Shut a) (hb : ¬ Opens b) : ¬ Opens (a ++ b) := by
  obtain ⟨hopens, rfl | ⟨a, x, hx, rfl⟩⟩ := ha
  · exact hb
  · intro h
    rw [List.append_assoc] at h
    rcases h.of_separates hx with hbefore | hafter
    · exact hopens (hbefore.mono (List.prefix_append a [x]).isInfix)
    · exact hb hafter

/-- **Shut texts can be put one after the other.** -/
theorem Shut.append (ha : Shut a) (hb : Shut b) : Shut (a ++ b) := by
  refine ⟨ha.append_not_opens hb.not_opens, ?_⟩
  rcases hb.ended with rfl | hended
  · rw [List.append_nil]
    exact ha.ended
  · exact Or.inr (hended.after a)

theorem Shut.flatMap {α : Type} {l : List α} {f : α → Text} (h : ∀ x ∈ l, Shut (f x)) :
    Shut (l.flatMap f) := by
  induction l with
  | nil => exact .nil
  | cons y l ih =>
    rw [List.flatMap_cons]
    exact (h y List.mem_cons_self).append (ih fun x hx => h x (List.mem_cons_of_mem y hx))

/-- A text without a dollar sign may stand before what opens nothing. -/
theorem Shut.after (ha : 0x24 ∉ a) (hb : ¬ Opens b) (hended : Ended b) : Shut (a ++ b) :=
  ⟨fun hopens => hb (hopens.of_append ha), Or.inr (hended.after a)⟩

/-! ## Spreading a text out -/

/-- **A text, spread out**: octets may be left out of it, and others come in between. What comes in
begins with a separating octet and has no dollar sign. -/
inductive Spread : Text → Text → Prop
  | nil : Spread [] []
  | keep {t u : Text} (c : UInt8) (h : Spread t u) : Spread (c :: t) (c :: u)
  | between {t u : Text} {x : UInt8} (left added : Text) (hx : separates x = true)
      (hadded : 0x24 ∉ added) (h : Spread t u) : Spread (left ++ t) (x :: (added ++ u))

theorem Spread.append (s : Text) (h : Spread t u) : Spread (s ++ t) (s ++ u) := by
  induction s with
  | nil => exact h
  | cons c s ih => exact .keep c ih

theorem Spread.refl (t : Text) : Spread t t := by
  simpa using Spread.nil.append t

/-- One more separating octet. -/
theorem Spread.octet (hx : separates x = true) (h : Spread t u) : Spread t (x :: u) :=
  .between [] [] hx List.not_mem_nil h

/-- What stands at the start of a text that was spread out, without a separating octet, stood at the
start before. -/
theorem Spread.starts (h : Spread t u) (hw : ∀ y ∈ w, separates y = false) (hstart : w <+: u) :
    w <+: t := by
  induction h generalizing w with
  | nil => exact hstart
  | keep c h ih =>
    cases w with
    | nil => exact List.nil_prefix
    | cons y w =>
      obtain ⟨rfl, htail⟩ := List.cons_prefix_cons.mp hstart
      exact List.cons_prefix_cons.mpr ⟨rfl, ih (fun z hz => hw z (List.mem_cons_of_mem y hz)) htail⟩
  | between left added hx hadded h ih =>
    cases w with
    | nil => exact List.nil_prefix
    | cons y w =>
      obtain ⟨rfl, -⟩ := List.cons_prefix_cons.mp hstart
      rw [hw y List.mem_cons_self] at hx
      cases hx

/-- **Spreading a text out brings about no opening.** -/
theorem Spread.opens (h : Spread t u) (hopens : Opens u) : Opens t := by
  induction h with
  | nil => exact hopens
  | @keep t u c h ih =>
    obtain ⟨w, hw, hpart⟩ := hopens
    rcases List.infix_cons_iff.mp hpart with hstart | hpart
    · exact ⟨w, hw, ((h.keep c).starts hw.not_separates hstart).isInfix⟩
    · exact (ih ⟨w, hw, hpart⟩).mono (List.suffix_cons c t).isInfix
  | @between t u x left added hx hadded h ih =>
    have hrest : Opens u := by
      rcases (show Opens ([] ++ x :: (added ++ u)) from hopens).of_separates hx with hnil | hrest
      · exact absurd hnil (not_opens_of_no_dollar List.not_mem_nil)
      · exact hrest.of_append hadded
    exact (ih hrest).mono (List.suffix_append left t).isInfix

end Text

/-- **A text in which no reference opens is left as it is**, whatever the variables are. -/
theorem Environment.substitute_eq (env : Environment) (h : ¬ Text.Opens t) :
    env.substitute t = t := by
  induction t with
  | nil => rw [substitute]
  | cons c t ih =>
    have hrest : ¬ Text.Opens t := fun hopens => h (hopens.mono (List.suffix_cons c t).isInfix)
    rw [substitute]
    split
    · rename_i r rest hread
      obtain ⟨w, hw, hstart⟩ := Reference.read?_opening hread
      exact absurd ⟨w, hw, hstart.isInfix⟩ h
    · rw [ih hrest]

end DetectorStream
