import DetectorStream.Proofs.Settings.References
import Mathlib.Data.List.TakeWhile

/-!
# Texts cut at their references

A reference is written as a name in braces after a dollar sign, perhaps with a text that stands in
for the variable. Its text ends at the first closing brace, so at most one reference is written at
any place. A text is therefore cut at its references in exactly one way, from left to right, and
what replaces a reference is put between the pieces without being read again.

* `Reference.IsWritten`: the ways to write a reference.
* `Reference.read?_eq_some_iff`: a reference is read where one is written, and nowhere else.
* `Reference.Becomes`: what a reference is replaced by.
* `Cutting.Of`: a text, cut at the leftmost reference, and what follows in the same way.
* `Cutting.Of.unique`, `Cutting.exists_of`: there is exactly one way.
* `Cutting.Of.substitute_eq`: the references of the cut are replaced, and all else is kept.
* `Cutting.Sealed`: no reference comes about where something was put in.
* **`Environment.substitute_exact`**: all of it, for every text and all variables.
-/

namespace DetectorStream

variable {env : Environment} {r r' : Reference} {a b s t u w w' : Text}

namespace Reference

/-! ## How references are written -/

/-- **The name of a variable**: a letter or an underscore, and then letters, digits and
underscores. -/
def IsIdentifier (name : Text) : Prop :=
  ∃ c rest, name = c :: rest ∧ (Text.isAlpha c = true ∨ c = 0x5F) ∧
    ∀ b ∈ rest, Text.isAlnum b = true ∨ b = 0x5F

theorem isNameOctet_iff {c : UInt8} : isNameOctet c = true ↔ Text.isAlnum c = true ∨ c = 0x5F := by
  rw [isNameOctet, Bool.or_eq_true, beq_iff_eq]

theorem isName_iff {name : Text} : isName name = true ↔ IsIdentifier name := by
  unfold isName
  rw [Bool.and_eq_true, List.all_eq_true]
  cases name with
  | nil =>
    refine ⟨fun h => absurd h.2 (by decide), ?_⟩
    rintro ⟨c, rest, hname, -⟩
    cases hname
  | cons c rest =>
    have hfirst : (isNameOctet c = true ∧ (!Text.isDigit c) = true) ↔
        (Text.isAlpha c = true ∨ c = 0x5F) := by
      rw [isNameOctet_iff, Text.isAlnum, Bool.or_eq_true, Bool.not_eq_true']
      constructor
      · rintro ⟨(halpha | hdigit) | hunderscore, hno⟩
        · exact .inl halpha
        · rw [hdigit] at hno
          cases hno
        · exact .inr hunderscore
      · rintro (halpha | rfl)
        · refine ⟨.inl (.inl halpha), ?_⟩
          unfold Text.isAlpha Text.isUpper Text.isLower Text.within at halpha
          unfold Text.isDigit Text.within
          simp only [Bool.or_eq_true, Bool.and_eq_true, decide_eq_true_eq, Bool.and_eq_false_iff,
            decide_eq_false_iff_not, UInt8.le_iff_toNat_le] at halpha ⊢
          simp only [UInt8.reduceToNat] at halpha ⊢
          omega
        · exact ⟨.inr rfl, by decide⟩
    simp only [List.head?_cons, Option.any_some, List.forall_mem_cons]
    constructor
    · rintro ⟨⟨hc, hrest⟩, hdigit⟩
      exact ⟨c, rest, rfl, hfirst.mp ⟨hc, hdigit⟩, fun b hb => isNameOctet_iff.mp (hrest b hb)⟩
    · rintro ⟨c', rest', hname, hc, hrest⟩
      cases hname
      obtain ⟨hoctet, hdigit⟩ := hfirst.mpr hc
      exact ⟨⟨hoctet, fun b hb => isNameOctet_iff.mpr (hrest b hb)⟩, hdigit⟩

/-- **How a reference is written**: alone, or with a text that stands in for the variable. That text
holds no closing brace; it may be empty, and it may hold line breaks. -/
inductive IsWritten : Reference → Text → Prop
  | alone {name : Text} (hname : IsIdentifier name) :
    IsWritten ⟨name, []⟩ ([0x24, 0x7B] ++ name ++ [0x7D])
  | standing {name standIn : Text} (hname : IsIdentifier name) (hstandIn : 0x7D ∉ standIn) :
    IsWritten ⟨name, standIn⟩ ([0x24, 0x7B] ++ name ++ [0x3A, 0x2D] ++ standIn ++ [0x7D])

theorem IsWritten.ne_nil (h : IsWritten r w) : w ≠ [] := by
  cases h <;> simp

/-- A name ends where an octet stands that names do not have. -/
theorem span_name {name : Text} {c : UInt8} (hname : isName name = true)
    (hc : isNameOctet c = false) (t : Text) :
    (name ++ c :: t).takeWhile isNameOctet = name ∧ (name ++ c :: t).dropWhile isNameOctet = c :: t := by
  unfold isName at hname
  rw [Bool.and_eq_true, List.all_eq_true] at hname
  refine ⟨?_, ?_⟩
  · rw [List.takeWhile_append_of_pos hname.1, List.takeWhile_cons_of_neg (by simp [hc]),
      List.append_nil]
  · rw [List.dropWhile_append_of_pos hname.1, List.dropWhile_cons_of_neg (by simp [hc])]

/-- What is written is read, whatever follows. -/
theorem IsWritten.read? (h : IsWritten r w) (t : Text) : read? (w ++ t) = some (r, t) := by
  cases h with
  | @alone name hname =>
    have hname := isName_iff.mpr hname
    obtain ⟨htake, hdrop⟩ := span_name hname (by decide : isNameOctet 0x7D = false) t
    simp only [List.cons_append, List.nil_append, List.append_assoc, Reference.read?, htake, hdrop,
      hname, Bool.not_true, Bool.false_eq_true, if_false]
  | @standing name standIn hname hstandIn =>
    have hname := isName_iff.mpr hname
    obtain ⟨htake, hdrop⟩ := span_name hname (by decide : isNameOctet 0x3A = false)
      (0x2D :: (standIn ++ 0x7D :: t))
    have hbefore : ∀ c ∈ standIn, (c != 0x7D) = true := by
      intro c hc
      rw [bne_iff_ne]
      rintro rfl
      exact hstandIn hc
    have htakeIn : (standIn ++ 0x7D :: t).takeWhile (· != 0x7D) = standIn := by
      rw [List.takeWhile_append_of_pos hbefore, List.takeWhile_cons_of_neg (by simp), List.append_nil]
    have hdropIn : (standIn ++ 0x7D :: t).dropWhile (· != 0x7D) = 0x7D :: t := by
      rw [List.dropWhile_append_of_pos hbefore, List.dropWhile_cons_of_neg (by simp)]
    simp only [List.cons_append, List.nil_append, List.append_assoc, Reference.read?, htake, hdrop,
      hname, Bool.not_true, Bool.false_eq_true, if_false, htakeIn, hdropIn]

/-- What is read was written. -/
theorem exists_isWritten (h : read? t = some (r, s)) : ∃ w, IsWritten r w ∧ t = w ++ s := by
  unfold read? at h
  split at h
  · rename_i t
    dsimp only at h
    split at h
    · cases h
    rename_i hname
    have hname : IsIdentifier (t.takeWhile isNameOctet) := isName_iff.mp (by simpa using hname)
    have hsplit := t.takeWhile_append_dropWhile (p := isNameOctet)
    split at h
    · rename_i rest hrest
      cases h
      refine ⟨_, .alone hname, ?_⟩
      rw [hrest] at hsplit
      conv => lhs; rw [← hsplit]
      simp
    · rename_i u hrest
      have hsplitIn := u.takeWhile_append_dropWhile (p := fun c : UInt8 => c != 0x7D)
      split at h
      · rename_i c rest hrestIn
        cases h
        have hbrace : c = 0x7D := by
          have hhead := List.head?_dropWhile_not (fun c : UInt8 => c != 0x7D) u
          rw [hrestIn] at hhead
          simpa using hhead
        refine ⟨_, .standing hname fun hmem => ?_, ?_⟩
        · have hne := List.mem_takeWhile_imp hmem
          simp at hne
        · rw [hrestIn, hbrace] at hsplitIn
          rw [hrest, ← hsplitIn] at hsplit
          conv => lhs; rw [← hsplit]
          simp
      · cases h
    · cases h
  · cases h

/-- **A reference is read where one is written, and nowhere else.** -/
theorem read?_eq_some_iff : read? t = some (r, s) ↔ ∃ w, IsWritten r w ∧ t = w ++ s := by
  refine ⟨exists_isWritten, ?_⟩
  rintro ⟨w, hw, rfl⟩
  exact hw.read? s

/-- At most one reference is written at the start of a text. -/
theorem IsWritten.unique (h : IsWritten r w) (h' : IsWritten r' w') (heq : w ++ s = w' ++ t) :
    r = r' ∧ w = w' ∧ s = t := by
  have hread := h.read? s
  rw [heq, h'.read? t] at hread
  cases hread
  exact ⟨rfl, List.append_cancel_right heq, rfl⟩

end Reference

namespace Reference

/-! ## What references are replaced by -/

/-- **What a reference is replaced by**: the value of its variable if that is set and not empty, and
otherwise the text that stands in, which is nothing for a name alone. -/
inductive Becomes (env : Environment) (r : Reference) : Text → Prop
  | set (v : Text) (found : env.lookup r.name = some v) (nonempty : v ≠ []) : Becomes env r v
  | empty (found : env.lookup r.name = some []) : Becomes env r r.standIn
  | unset (found : env.lookup r.name = none) : Becomes env r r.standIn

theorem becomes_iff : Becomes env r u ↔ u = r.value env := by
  unfold value
  constructor
  · rintro (⟨v, found, nonempty⟩ | found | found)
    · rw [found]
      simp [nonempty]
    · rw [found]
      rfl
    · rw [found]
  · rintro rfl
    cases found : env.lookup r.name with
    | none => exact .unset found
    | some v =>
      cases v with
      | nil => exact .empty found
      | cons b v => exact .set _ found nofun

end Reference

open Reference (IsWritten)

/-! ## Places of references -/

namespace Text

/-- A reference is written at the place `n` of the text. -/
def RefersAt (t : Text) (n : Nat) : Prop :=
  ∃ a r w b, IsWritten r w ∧ t = a ++ (w ++ b) ∧ a.length = n

/-- **No reference is written anywhere in the text.** -/
def Bare (t : Text) : Prop := ∀ n, ¬ RefersAt t n

theorem refersAt_zero (h : Reference.read? t = some (r, s)) : RefersAt t 0 := by
  obtain ⟨w, hw, rfl⟩ := Reference.exists_isWritten h
  exact ⟨[], r, w, s, hw, rfl, rfl⟩

theorem RefersAt.behind {n : Nat} (h : RefersAt t n) (a : Text) :
    RefersAt (a ++ t) (a.length + n) := by
  obtain ⟨before, r, w, b, hw, rfl, rfl⟩ := h
  exact ⟨a ++ before, r, w, b, hw, (List.append_assoc a before (w ++ b)).symm, List.length_append⟩

/-- A reference that is not written at the start is written in the rest. -/
theorem RefersAt.of_cons {c : UInt8} {n : Nat} (hread : Reference.read? (c :: t) = none)
    (h : RefersAt (c :: t) n) : ∃ m, n = m + 1 ∧ RefersAt t m := by
  obtain ⟨a, r, w, b, hw, heq, rfl⟩ := h
  cases a with
  | nil =>
    rw [List.nil_append] at heq
    rw [heq, hw.read? b] at hread
    cases hread
  | cons c' a =>
    obtain ⟨rfl, rfl⟩ := List.cons_eq_cons.mp heq
    exact ⟨a.length, rfl, a, r, w, b, hw, rfl, rfl⟩

end Text

open Text (RefersAt Bare)

/-! ## Cutting a text -/

/-- A text in pieces: each reference with what stands before it, and what stands behind the last. -/
structure Cutting where
  parts : List (Text × Reference)
  tail : Text

namespace Cutting

variable {c c' : Cutting} {kept : Text} {parts : List (Text × Reference)} {value : Reference → Text}

/-- The pieces put together again, with these texts for the references. -/
def replaced (value : Reference → Text) (c : Cutting) : Text :=
  c.parts.flatMap (fun p => p.1 ++ value p.2) ++ c.tail

/-- **The text is cut at its references**: at the leftmost one, and what follows in the same way. -/
inductive Of : Text → Cutting → Prop
  | done {t : Text} (hbare : Bare t) : Of t ⟨[], t⟩
  | next {kept w rest tail : Text} {r : Reference} {parts : List (Text × Reference)}
      (hw : IsWritten r w) (hfirst : ∀ n, RefersAt (kept ++ (w ++ rest)) n → kept.length ≤ n)
      (h : Of rest ⟨parts, tail⟩) : Of (kept ++ (w ++ rest)) ⟨(kept, r) :: parts, tail⟩

/-- One more octet in front, at which no reference is written. -/
theorem Of.cons {x : UInt8} (hread : Reference.read? (x :: t) = none) (h : Of t c) :
    ∃ c', Of (x :: t) c' := by
  cases h with
  | done hbare =>
    refine ⟨_, .done fun n hn => ?_⟩
    obtain ⟨m, -, hm⟩ := hn.of_cons hread
    exact hbare m hm
  | @next kept w rest tail r parts hw hfirst h =>
    have hcut : Of ((x :: kept) ++ (w ++ rest)) ⟨(x :: kept, r) :: parts, tail⟩ := by
      refine .next hw (fun n hn => ?_) h
      obtain ⟨m, rfl, hm⟩ := hn.of_cons hread
      exact Nat.succ_le_succ (hfirst m hm)
    exact ⟨_, hcut⟩

/-- Every text can be cut. -/
theorem exists_of (t : Text) : ∃ c, Of t c := by
  induction t using Environment.substitute.induct with
  | case1 => exact ⟨_, .done fun n hn => by
      obtain ⟨a, r, w, b, hw, heq, -⟩ := hn
      exact hw.ne_nil (List.append_eq_nil_iff.mp (List.append_eq_nil_iff.mp heq.symm).2).1⟩
  | case2 x t r rest hread ih =>
    obtain ⟨⟨parts, tail⟩, hof⟩ := ih
    obtain ⟨w, hw, heq⟩ := Reference.exists_isWritten hread
    have hcut : Of ([] ++ (w ++ rest)) ⟨([], r) :: parts, tail⟩ :=
      .next hw (fun n _ => Nat.zero_le n) hof
    rw [heq]
    exact ⟨_, hcut⟩
  | case3 x t hread ih =>
    obtain ⟨c, hof⟩ := ih
    exact hof.cons hread

/-- **There is only one way to cut a text.** -/
theorem Of.unique (h : Of t c) (h' : Of t c') : c = c' := by
  induction h generalizing c' with
  | @done t hbare =>
    cases h' with
    | done _ => rfl
    | @next kept w rest tail r parts hw _ _ => exact absurd ⟨kept, r, w, rest, hw, rfl, rfl⟩ (hbare _)
  | @next kept w rest tail r parts hw hfirst h ih =>
    generalize ht : kept ++ (w ++ rest) = t at h' hfirst
    cases h' with
    | done hbare => exact absurd ⟨kept, r, w, rest, hw, ht.symm, rfl⟩ (hbare _)
    | @next kept' w' rest' tail' r' parts' hw' hfirst' h' =>
      -- both cuts are at the leftmost reference, so the same octets stand before it
      have hlength : kept.length = kept'.length :=
        Nat.le_antisymm (hfirst _ ⟨kept', r', w', rest', hw', rfl, rfl⟩)
          (hfirst' _ ⟨kept, r, w, rest, hw, ht.symm, rfl⟩)
      obtain ⟨rfl, hrest⟩ := List.append_inj ht hlength
      obtain ⟨rfl, -, rfl⟩ := hw.unique hw' hrest
      cases ih h'
      rfl

/-! ## Replacing -/

/-- What stands before the first reference is kept. -/
theorem substitute_kept (h : ∀ n < kept.length, ¬ RefersAt (kept ++ t) n) :
    env.substitute (kept ++ t) = kept ++ env.substitute t := by
  induction kept with
  | nil => rfl
  | cons x kept ih =>
    have hrest : ∀ n < kept.length, ¬ RefersAt (kept ++ t) n := by
      intro n hn hrefers
      have hbehind := hrefers.behind [x]
      rw [List.length_singleton, Nat.add_comm] at hbehind
      exact h (n + 1) (Nat.succ_lt_succ hn) hbehind
    rw [List.cons_append, Environment.substitute]
    split
    · rename_i hread
      exact absurd (Text.refersAt_zero hread) (h 0 (Nat.succ_pos _))
    · rw [ih hrest, List.cons_append]

/-- A reference is replaced by what it stands for. -/
theorem substitute_written (h : IsWritten r w) (t : Text) :
    env.substitute (w ++ t) = r.value env ++ env.substitute t := by
  have hread := h.read? t
  obtain ⟨x, w, rfl⟩ := List.exists_cons_of_ne_nil h.ne_nil
  rw [List.cons_append] at hread ⊢
  rw [Environment.substitute]
  split
  · rename_i hread'
    rw [hread] at hread'
    cases hread'
    rfl
  · rename_i hread'
    rw [hread] at hread'
    cases hread'

theorem substitute_bare (h : Bare t) : env.substitute t = t := by
  have hbefore : ∀ n < t.length, ¬ RefersAt (t ++ []) n := by
    intro n _
    rw [List.append_nil]
    exact h n
  have hkept : env.substitute (t ++ []) = t ++ env.substitute [] := substitute_kept hbefore
  rwa [List.append_nil, Environment.substitute, List.append_nil] at hkept

/-- **The references of the cut are replaced, and all else is kept.** -/
theorem Of.substitute_eq (h : Of t c) (env : Environment) :
    env.substitute t = c.replaced fun r => r.value env := by
  induction h with
  | done hbare => exact substitute_bare hbare
  | @next kept w rest tail r parts hw hfirst _ ih =>
    have hbefore : ∀ n < kept.length, ¬ RefersAt (kept ++ (w ++ rest)) n :=
      fun n hn hrefers => absurd (hfirst n hrefers) (Nat.not_le_of_lt hn)
    rw [substitute_kept hbefore, substitute_written hw, ih]
    simp [replaced]

/-! ## Replacing twice -/

/-- **No reference comes about where something was put in**: each one that is written in the result
ends before it, or begins behind it. -/
def Sealed (value : Reference → Text) (c : Cutting) : Prop :=
  ∀ before kept r after, c.parts = before ++ (kept, r) :: after →
    ∀ a r' w b, IsWritten r' w → c.replaced value = a ++ (w ++ b) →
      (a ++ w).length ≤ (replaced value ⟨before, kept⟩).length ∨
        (replaced value ⟨before, kept⟩ ++ value r).length ≤ a.length

theorem replaced_cons (value : Reference → Text) (kept : Text) (r : Reference)
    (parts : List (Text × Reference)) (tail : Text) :
    replaced value ⟨(kept, r) :: parts, tail⟩ =
      kept ++ (value r ++ replaced value ⟨parts, tail⟩) := by
  simp [replaced]

theorem Sealed.rest {tail : Text} (h : Sealed value ⟨(kept, r) :: parts, tail⟩) :
    Sealed value ⟨parts, tail⟩ := by
  intro before kept' r' after hparts a q w b hw heq
  obtain rfl : parts = before ++ (kept', r') :: after := hparts
  have hmore := h ((kept, r) :: before) kept' r' after rfl (kept ++ (value r ++ a)) q w b hw (by
    rw [replaced_cons, heq]
    simp)
  rw [replaced_cons] at hmore
  simp only [List.length_append] at hmore ⊢
  omega

/-- A sealed result has no references. -/
theorem Of.bare_replaced (h : Of t c) (hsealed : c.Sealed value) : Bare (c.replaced value) := by
  induction h with
  | done hbare => exact hbare
  | @next kept w rest tail r parts hw hfirst _ ih =>
    rintro n ⟨a, r', w', b, hw', heq, rfl⟩
    have hplace := hsealed [] kept r parts rfl a r' w' b hw' heq
    rw [replaced_cons] at heq
    have hbefore : replaced value ⟨[], kept⟩ = kept := rfl
    rw [hbefore, List.length_append, List.length_append] at hplace
    rcases hplace with hends | hbegins
    · -- what is written before the value was written there before
      have hstart : a ++ w' <+: kept ++ (value r ++ replaced value ⟨parts, tail⟩) :=
        ⟨b, by rw [heq, List.append_assoc]⟩
      have hinside : a ++ w' <+: kept :=
        List.prefix_of_prefix_length_le hstart (List.prefix_append _ _) (by simpa using hends)
      obtain ⟨k, hk⟩ := hinside
      have hlow := hfirst a.length ⟨a, r', w', k ++ (w ++ rest), hw', by rw [← hk]; simp, rfl⟩
      have hpos := List.length_pos_iff.mpr hw'.ne_nil
      omega
    · have hstart : kept ++ value r <+: a ++ (w' ++ b) :=
        ⟨replaced value ⟨parts, tail⟩, by rw [← heq, List.append_assoc]⟩
      have hinside : kept ++ value r <+: a :=
        List.prefix_of_prefix_length_le hstart (List.prefix_append _ _) (by simpa using hbegins)
      obtain ⟨a', rfl⟩ := hinside
      refine ih hsealed.rest a'.length ⟨a', r', w', b, hw', ?_, rfl⟩
      simpa using heq

end Cutting

/-- **References are replaced exactly as the text is cut.** A text is cut at its references, from left
to right, in exactly one way; each reference is replaced by one text, its variable or what stands in;
and the result is the pieces in their order with these texts in between. So a text without references
stays as it is. And if no reference comes about where something was put in, nothing is left to replace,
whatever the variables are then. -/
theorem Environment.substitute_exact (env : Environment) (t : Text) :
    ∃ c value, Cutting.Of t c ∧ (∀ c', Cutting.Of t c' → c' = c) ∧
      (∀ (r : Reference) u, r.Becomes env u ↔ u = value r) ∧
      env.substitute t = c.replaced value ∧
      (Bare t → env.substitute t = t) ∧
      (c.Sealed value →
        ∀ env' : Environment, env'.substitute (env.substitute t) = env.substitute t) := by
  obtain ⟨c, hof⟩ := Cutting.exists_of t
  have hresult := hof.substitute_eq env
  refine ⟨c, fun r => r.value env, hof, fun c' h' => h'.unique hof,
    fun r u => Reference.becomes_iff, hresult, Cutting.substitute_bare, fun hsealed env' => ?_⟩
  rw [hresult]
  exact Cutting.substitute_bare (hof.bare_replaced hsealed)

/-- A reference ends at the first closing brace, and what stands in for it is not read again. -/
example : Environment.substitute [("B", "x")] "\x24\x7bA:-\x24\x7bB\x7d\x7d" =
    Text.ofString "\x24\x7bB\x7d" := by decide +kernel

end DetectorStream
