import DetectorStream.Proofs.CommandLine.Given
import DetectorStream.Settings.Resolve
import Mathlib.Data.List.Pairwise
import Mathlib.Data.List.Nodup

/-!
# Settings from several places, field by field

Flags, variables, a file and the standard values are merged by putting what is given for one field
after the other into the standard settings. The fields do not overlap, so each of them ends up with
what was given for it, and nothing else.

A list is laid over the one that was there before, item by item. So an empty list of brokers leaves
the standard broker where it is, by whomever it was given.

* `Field.keeps`, `Field.apart`: what is put into a field is found in it, and in no other one.
* `foldlM_put_takes`, `merge_takes`: each field takes what is given for it.
* `Field.variables_nodup`, `Field.flagKeys_nodup`: no variable, key or flag stands for two fields.
* `given?_eq_firstGiven?`: that is given by the flag, or else by the variable, or else by the file.
* `SameBut.given?_eq`, `merge_frame`: what differs about one field changes no other field.
* `decode_blank_iff`: whether a field holds what was given and nothing of its standard value.
* **`resolve_layered`**: all of this for every command line, environment and file.
* **`empty_brokers_not_taken`**: it is not so that every field holds just what was given for it.
-/

namespace DetectorStream

open Yaml (Value Meaning)

variable {s s' : Settings} {f g : Field} {fs : List Field} {v : Value} {v? : Option Value}
  {slot : Slot}

/-! ## Fields -/

namespace Slot

/-- What is put into a field is found in it. -/
def Keeps (x : Slot) : Prop := ∀ a s, x.lens.get (x.lens.set a s) = a

/-- **Putting something into the one field leaves the other as it is**, and the other way round. -/
def Apart (x y : Slot) : Prop :=
  (∀ a s, y.lens.get (x.lens.set a s) = y.lens.get s) ∧
    ∀ a s, x.lens.get (y.lens.set a s) = x.lens.get s

end Slot

namespace Field

theorem keeps : ∀ f ∈ all, f.slot.Keeps := by
  simp only [all, leading, ofTransportSection, ofFlowSection, trailing, ofLogSection,
    List.cons_append, List.nil_append, List.forall_mem_cons, List.not_mem_nil, false_imp_iff,
    implies_true, and_true]
  repeat' apply And.intro
  all_goals exact fun _ _ => rfl

theorem apart : all.Pairwise fun f g => f.slot.Apart g.slot := by
  simp only [all, leading, ofTransportSection, ofFlowSection, trailing, ofLogSection,
    List.cons_append, List.nil_append, List.pairwise_cons, List.forall_mem_cons, List.not_mem_nil,
    false_imp_iff, implies_true, List.Pairwise.nil, and_true]
  repeat' apply And.intro
  all_goals exact fun _ _ => rfl

end Field

namespace Settings

/-! ## One field after the other -/

/-- What is given for a field is put into it; what is not given changes nothing. -/
def put (v? : Option Value) (s : Settings) (f : Field) : Option Settings :=
  match v? with
  | some v => s.ofGiven f.slot v
  | none => some s

/-- **A field takes what is given for it**, over what it held before; where nothing is given, it is
as it was. -/
def Takes (v? : Option Value) (slot : Slot) (before after : Settings) : Prop :=
  v?.elim (some (slot.lens.get before)) (decode slot (slot.lens.get before)) =
    some (slot.lens.get after)

/-- One step: the field takes what is given for it. -/
theorem put_takes (hkeeps : f.slot.Keeps) (h : put v? s f = some s') : Takes v? f.slot s s' := by
  cases v? with
  | none =>
    cases h
    rfl
  | some v =>
    obtain ⟨a, hdecode, rfl⟩ := Option.map_eq_some_iff.mp h
    exact hdecode.trans (congrArg some (hkeeps a s).symm)

/-- One step: a field that is apart stays as it was. -/
theorem put_frame (hapart : f.slot.Apart slot) (h : put v? s f = some s') :
    slot.lens.get s' = slot.lens.get s := by
  cases v? with
  | none =>
    cases h
    rfl
  | some v =>
    obtain ⟨a, -, rfl⟩ := Option.map_eq_some_iff.mp h
    exact hapart.1 a s

/-- Many steps: a field that is apart from all of them stays as it was. -/
theorem foldlM_put_frame {given : Field → Option Value} (hapart : ∀ f ∈ fs, f.slot.Apart slot)
    (h : fs.foldlM (fun s f => put (given f) s f) s = some s') :
    slot.lens.get s' = slot.lens.get s := by
  induction fs generalizing s with
  | nil =>
    cases h
    rfl
  | cons f fs ih =>
    obtain ⟨s₁, hput, hrest⟩ := Option.bind_eq_some_iff.mp ((List.foldlM_cons ..).symm.trans h)
    have hapart' := List.forall_mem_cons.mp hapart
    exact (ih hapart'.2 hrest).trans (put_frame hapart'.1 hput)

/-- **Many steps: each field takes what is given for it**, over what it held before all of them. -/
theorem foldlM_put_takes {given : Field → Option Value} (hkeeps : ∀ f ∈ fs, f.slot.Keeps)
    (hapart : fs.Pairwise fun f g => f.slot.Apart g.slot)
    (h : fs.foldlM (fun s f => put (given f) s f) s = some s') :
    ∀ f ∈ fs, Takes (given f) f.slot s s' := by
  induction fs generalizing s with
  | nil => exact fun f hf => absurd hf List.not_mem_nil
  | cons f fs ih =>
    obtain ⟨s₁, hput, hrest⟩ := Option.bind_eq_some_iff.mp ((List.foldlM_cons ..).symm.trans h)
    obtain ⟨hkeepsf, hkeepsfs⟩ := List.forall_mem_cons.mp hkeeps
    obtain ⟨hapartf, hapartfs⟩ := List.pairwise_cons.mp hapart
    refine List.forall_mem_cons.mpr ⟨?_, fun g hg => ?_⟩
    · -- the steps behind the field leave it alone
      have hlater : f.slot.lens.get s' = f.slot.lens.get s₁ :=
        foldlM_put_frame (fun g hg => ⟨(hapartf g hg).2, (hapartf g hg).1⟩) hrest
      unfold Takes
      rw [hlater]
      exact put_takes hkeepsf hput
    · -- and so does the step in front of the others
      have hearlier : g.slot.lens.get s₁ = g.slot.lens.get s := put_frame (hapartf g hg) hput
      have htakes := ih hkeepsfs hapartfs hrest g hg
      unfold Takes at htakes ⊢
      rwa [hearlier] at htakes

/-- What is given for a field by all places together. -/
def given? (given : Text → Option Flag.Value) (env : Environment) (file : List (Text × Value))
    (f : Field) : Option Value :=
  lookup ((flagOf? f).bind given) (flagOf? f).isSome env file f

variable {given given' : Text → Option Flag.Value} {env env' : Environment}
  {file file' : List (Text × Value)}

/-- **Each field takes what all places together give for it**, over its standard value. -/
theorem merge_takes (h : merge (fun _ => true) given env file = some s) (hf : f ∈ Field.all) :
    Takes (given? given env file f) f.slot standard s := by
  unfold merge at h
  split at h
  · cases h
  · have htakes := foldlM_put_takes Field.keeps Field.apart h f hf
    rwa [show (flagOf? f).filter (fun _ => true) = flagOf? f by cases flagOf? f <;> rfl] at htakes

end Settings

/-! ## The spellings of the fields -/

namespace Field

open Settings (flagKeys flagOf? flagType flags variable_)

/-- A number for a text. Texts with numbers of their own differ. -/
def code (t : Text) : Nat := t.foldl (fun n b => 256 * n + b.toNat) 0

/-- The names of the sections, and an empty one for no section. -/
def sectionNames : List String := "" :: groups

/-- **No two fields and sections share a variable.** So they have keys of their own. -/
theorem variables_nodup :
    ((sectionNames.map Text.ofString ++ all.map key).map variable_).Nodup :=
  .of_map code (by decide +kernel)

theorem spellings_nodup : (sectionNames.map Text.ofString ++ all.map key).Nodup :=
  .of_map variable_ variables_nodup

theorem eq_of_key_eq (hf : f ∈ all) (hg : g ∈ all) (h : f.key = g.key) : f = g :=
  List.inj_on_of_nodup_map spellings_nodup.of_append_right hf hg h

theorem variable_ne (hf : f ∈ all) (hg : g ∈ all) (hne : f.key ≠ g.key) :
    variable_ f.key ≠ variable_ g.key := by
  intro h
  exact hne (List.inj_on_of_nodup_map variables_nodup
    (List.mem_append_right _ (List.mem_map_of_mem hf))
    (List.mem_append_right _ (List.mem_map_of_mem hg)) h)

theorem group_mem : ∀ f ∈ all, f.group ∈ sectionNames := by decide +kernel

theorem group_mem_of_isEmpty (hf : f ∈ all) (hgroup : f.group.isEmpty = false) :
    f.group ∈ groups := by
  rcases List.mem_cons.mp (group_mem f hf) with hnone | hsome
  · rw [hnone] at hgroup
    cases hgroup
  · exact hsome

/-- The name of a section is no key. -/
theorem key_ne_group (hf : f ∈ all) (hg : g ∈ all) : f.key ≠ Text.ofString g.group := by
  intro h
  refine List.disjoint_of_nodup_append spellings_nodup (List.mem_map_of_mem (group_mem g hg)) ?_
  rw [← h]
  exact List.mem_map_of_mem hf

/-- Sections have names of their own. -/
theorem group_eq (hf : f ∈ all) (hg : g ∈ all)
    (h : Text.ofString f.group = Text.ofString g.group) : f.group = g.group :=
  List.inj_on_of_nodup_map spellings_nodup.of_append_left (group_mem f hf) (group_mem g hg) h

theorem variable_group_ne (hf : f ∈ all) (hg : g ∈ all) :
    variable_ (Text.ofString g.group) ≠ variable_ f.key := by
  intro h
  refine key_ne_group hf hg (List.inj_on_of_nodup_map variables_nodup
    (List.mem_append_right _ (List.mem_map_of_mem hf))
    (List.mem_append_left _ (List.mem_map_of_mem (group_mem g hg))) h.symm)

/-- Fields of one section have names of their own. -/
theorem name_ne (hgroup : f.group = g.group) (hne : f.key ≠ g.key) :
    Text.ofString f.name ≠ Text.ofString g.name := by
  intro hname
  refine hne ?_
  unfold key
  rw [hgroup, hname]

theorem flagKeys_nodup : (flagKeys.map fun k => Text.ofString k.1).Nodup :=
  .of_map code (by decide +kernel)

theorem flagOf?_eq_some {n : Text} (h : flagOf? f = some n) :
    ∃ k ∈ flagKeys, Text.ofString k.2.2.1 = f.key ∧ Text.ofString k.1 = n := by
  obtain ⟨k, hk, hname⟩ := Option.map_eq_some_iff.mp h
  have hkey := List.find?_some hk
  exact ⟨k, List.mem_of_find?_eq_some hk, beq_iff_eq.mp hkey, hname⟩

/-- A flag belongs to one field. -/
theorem key_eq_of_flagOf? {n : Text} (hf : flagOf? f = some n) (hg : flagOf? g = some n) :
    f.key = g.key := by
  obtain ⟨k, hk, hkey, hname⟩ := flagOf?_eq_some hf
  obtain ⟨k', hk', hkey', hname'⟩ := flagOf?_eq_some hg
  cases List.inj_on_of_nodup_map flagKeys_nodup hk hk' (hname.trans hname'.symm)
  exact hkey.symm.trans hkey'

/-- The flag of a field takes values of the type of the field. -/
theorem flag_type {fl : Flag} (hfl : fl ∈ flags) (hf : f ∈ all) (h : flagOf? f = some fl.name) :
    fl.type = flagType f.slot := by
  obtain ⟨k, hk, hmade⟩ := List.mem_filterMap.mp hfl
  obtain ⟨g, hg, rfl⟩ := Option.map_eq_some_iff.mp hmade
  obtain ⟨k', hk', hkey', hname⟩ := flagOf?_eq_some h
  cases List.inj_on_of_nodup_map flagKeys_nodup hk' hk hname
  have hkey := List.find?_some hg
  rw [beq_iff_eq, hkey'] at hkey
  rw [eq_of_key_eq hf (List.mem_of_find?_eq_some hg) hkey.symm]

end Field

/-! ## What is given for a field -/

namespace Settings

/-- What is given for a field by its flag, or else by its variable, or else by the file. -/
def firstGiven? (given : Text → Option Flag.Value) (env : Environment) (file : List (Text × Value))
    (f : Field) : Option Value :=
  (((flagOf? f).bind given).map ofFlag).or
    (((nonempty? env (variable_ f.key)).map fun t => .scalar (.text t)).or (inFile? file f))

/-- Does no variable have the name of a section? -/
def NoSections (env : Environment) : Prop :=
  ∀ g ∈ Field.groups, nonempty? env (variable_ (Text.ofString g)) = none

instance : DecidablePred NoSections := fun env =>
  inferInstanceAs (Decidable (∀ g ∈ Field.groups, nonempty? env (variable_ (Text.ofString g)) = none))

theorem given?_eq_firstGiven? (hf : f ∈ Field.all) (hflag : (flagOf? f).isSome)
    (hsections : NoSections env) : given? given env file f = firstGiven? given env file f := by
  have hgroup : (!f.group.isEmpty && (nonempty? env (variable_ (Text.ofString f.group))).isSome)
      = false := by
    cases hempty : f.group.isEmpty with
    | true => rfl
    | false => rw [hsections _ (Field.group_mem_of_isEmpty hf hempty)]; rfl
  unfold given? lookup firstGiven?
  rw [hflag, hgroup]
  cases (flagOf? f).bind given with
  | some v => rfl
  | none =>
    cases nonempty? env (variable_ f.key) with
    | some t => rfl
    | none =>
      simp only [Bool.true_or, if_true, Bool.false_eq_true, if_false, Option.map_none, Option.none_or]
      split <;> first | rfl | (rename_i h; exact h.symm)

/-! ## Two sets of layers -/

/-- What a document says in a section. -/
def sectionOf (file : List (Text × Value)) (group : Text) : List (Text × Value) :=
  match (lowered file).lookup group with
  | some (.map es) => es
  | _ => []

/-- Two documents say the same but for one field. -/
structure SameFileBut (g : Field) (file file' : List (Text × Value)) : Prop where
  outside : ∀ k, k ≠ g.key → k ≠ Text.ofString g.group →
    (lowered file').lookup k = (lowered file).lookup k
  inside : ∀ k, k ≠ Text.ofString g.name →
    (lowered (sectionOf file' g.group)).lookup k = (lowered (sectionOf file g.group)).lookup k

/-- Two sets of layers say the same but for one field: its flag, its variable and its entry in the
file may differ. -/
structure SameBut (g : Field) (given : Text → Option Flag.Value) (env : Environment)
    (file : List (Text × Value)) (given' : Text → Option Flag.Value) (env' : Environment)
    (file' : List (Text × Value)) : Prop where
  flag_eq : ∀ n, flagOf? g ≠ some n → given' n = given n
  variable_eq : ∀ n, n ≠ variable_ g.key → env'.lookup n = env.lookup n
  same_file : SameFileBut g file file'

theorem inFile?_eq (file : List (Text × Value)) (f : Field) :
    inFile? file f = (top? file f.key).or
      (if f.group.isEmpty then none else top? (sectionOf file f.group) f.name) := by
  unfold inFile?
  cases top? file f.key with
  | some v => rfl
  | none =>
    cases f.group.isEmpty with
    | true => rfl
    | false =>
      simp only [Bool.false_eq_true, if_false, Option.none_or]
      unfold sectionOf top?
      cases (lowered file).lookup (Text.ofString f.group) with
      | none => rfl
      | some v =>
        cases v with
        | scalar m => cases m <;> rfl
        | list items => rfl
        | map es => rfl

/-- Is something there that is no mapping? -/
def isLeaf : Option Value → Bool
  | none => false
  | some (.map _) => false
  | some _ => true

theorem isMentioned_eq (file : List (Text × Value)) (f : Field) :
    isMentioned file f = (isLeaf ((lowered file).lookup f.key) ||
      (!f.group.isEmpty && isLeaf ((lowered (sectionOf file f.group)).lookup (Text.ofString f.name)))) := by
  unfold isMentioned sectionOf
  dsimp only
  refine congrArg₂ _ ?_ ?_
  · cases (lowered file).lookup f.key with
    | none => rfl
    | some v => cases v <;> rfl
  · cases (lowered file).lookup (Text.ofString f.group) with
    | none => exact (Bool.and_false _).symm
    | some v =>
      cases v with
      | scalar m => exact (Bool.and_false _).symm
      | list items => exact (Bool.and_false _).symm
      | map es =>
        refine congrArg (!f.group.isEmpty && ·) ?_
        dsimp only
        cases (lowered es).lookup (Text.ofString f.name) with
        | none => rfl
        | some v => cases v <;> rfl

/-- Documents that say the same but for one field say the same about another one. -/
theorem SameFileBut.lookup_section (h : SameFileBut g file file') (hf : f ∈ Field.all)
    (hg : g ∈ Field.all) (hne : f.key ≠ g.key) :
    (lowered (sectionOf file' f.group)).lookup (Text.ofString f.name) =
      (lowered (sectionOf file f.group)).lookup (Text.ofString f.name) := by
  by_cases hgroup : Text.ofString f.group = Text.ofString g.group
  · rw [hgroup]
    exact h.inside _ (Field.name_ne (Field.group_eq hf hg hgroup) hne)
  · have hsection : (lowered file').lookup (Text.ofString f.group) =
        (lowered file).lookup (Text.ofString f.group) :=
      h.outside _ (Field.key_ne_group hg hf).symm hgroup
    unfold sectionOf
    rw [hsection]

theorem SameFileBut.lookup_key (h : SameFileBut g file file') (hf : f ∈ Field.all)
    (hg : g ∈ Field.all) (hne : f.key ≠ g.key) :
    (lowered file').lookup f.key = (lowered file).lookup f.key :=
  h.outside _ hne (Field.key_ne_group hf hg)

theorem SameFileBut.inFile?_eq (h : SameFileBut g file file') (hf : f ∈ Field.all)
    (hg : g ∈ Field.all) (hne : f.key ≠ g.key) : inFile? file' f = inFile? file f := by
  simp only [Settings.inFile?_eq, top?, h.lookup_section hf hg hne, h.lookup_key hf hg hne]

theorem SameFileBut.isMentioned_eq (h : SameFileBut g file file') (hf : f ∈ Field.all)
    (hg : g ∈ Field.all) (hne : f.key ≠ g.key) :
    isMentioned file' f = isMentioned file f := by
  simp only [Settings.isMentioned_eq, h.lookup_section hf hg hne, h.lookup_key hf hg hne]

/-- **Layers that say the same but for one field give the same for another one.** -/
theorem SameBut.given?_eq (h : SameBut g given env file given' env' file') (hf : f ∈ Field.all)
    (hg : g ∈ Field.all) (hne : f.key ≠ g.key) :
    given? given' env' file' f = given? given env file f := by
  have hflag : (flagOf? f).bind given' = (flagOf? f).bind given := by
    cases hn : flagOf? f with
    | none => rfl
    | some n => exact h.flag_eq n fun hgn => hne (Field.key_eq_of_flagOf? hn hgn)
  have hvariable : nonempty? env' (variable_ f.key) = nonempty? env (variable_ f.key) := by
    unfold nonempty?
    rw [h.variable_eq _ (Field.variable_ne hf hg hne)]
  have hsection : (!f.group.isEmpty && (nonempty? env' (variable_ (Text.ofString f.group))).isSome) =
      (!f.group.isEmpty && (nonempty? env (variable_ (Text.ofString f.group))).isSome) := by
    cases hempty : f.group.isEmpty with
    | true => rfl
    | false =>
      unfold nonempty?
      rw [h.variable_eq _ (Field.variable_group_ne hg hf)]
  unfold given? lookup
  rw [hflag, hvariable, hsection, h.same_file.inFile?_eq hf hg hne, h.same_file.isMentioned_eq hf hg hne]

/-- **What differs about one field changes no other field.** -/
theorem merge_frame (h : SameBut g given env file given' env' file') (hf : f ∈ Field.all)
    (hg : g ∈ Field.all) (hne : f.key ≠ g.key)
    (hmerge : merge (fun _ => true) given env file = some s)
    (hmerge' : merge (fun _ => true) given' env' file' = some s') :
    f.slot.lens.get s' = f.slot.lens.get s := by
  have htakes := merge_takes hmerge hf
  have htakes' := merge_takes hmerge' hf
  rw [h.given?_eq hf hg hne] at htakes'
  exact Option.some.inj (htakes'.symm.trans htakes)

/-! ## What a given value does to a field -/

theorem isNull_eq_false_of_top? {key : Text} (h : top? file key = some v) : isNull v = false := by
  obtain ⟨-, hv⟩ := Option.filter_eq_some_iff.mp h
  simpa using hv

/-- What is given is never nothing. -/
theorem isNull_eq_false_of_firstGiven? (h : firstGiven? given env file f = some v) :
    isNull v = false := by
  unfold firstGiven? at h
  rcases Option.or_eq_some_iff.mp h with hflag | ⟨-, h⟩
  · obtain ⟨x, -, rfl⟩ := Option.map_eq_some_iff.mp hflag
    cases x <;> rfl
  rcases Option.or_eq_some_iff.mp h with hvariable | ⟨-, h⟩
  · obtain ⟨t, -, rfl⟩ := Option.map_eq_some_iff.mp hvariable
    rfl
  rw [inFile?_eq] at h
  rcases Option.or_eq_some_iff.mp h with hkey | ⟨-, h⟩
  · exact isNull_eq_false_of_top? hkey
  split at h
  · cases h
  · exact isNull_eq_false_of_top? h

end Settings

namespace Slot

/-- A field that holds nothing. -/
def blank : (slot : Slot) → slot.Content
  | text _ => []
  | texts _ _ => []
  | word _ => 0
  | shortWord _ => 0
  | flag _ => false
  | number _ => 0
  | duration _ => 0

/-- Is a field a list? -/
def isTexts : Slot → Bool
  | texts _ _ => true
  | _ => false

end Slot

namespace Settings

/-- What is given for a field that is no list counts whatever the field held before. -/
theorem decode_eq_of_not_texts (hslot : ∀ l o, slot ≠ .texts l o) (hv : isNull v = false)
    (old old' : slot.Content) : decode slot old v = decode slot old' v := by
  cases slot with
  | texts l o => exact absurd rfl (hslot l o)
  | _ =>
    cases v with
    | scalar m =>
      cases m with
      | null => cases hv
      | _ => rfl
    | list items => rfl
    | map es => rfl

/-- A list is laid over what the field held before, item by item. -/
theorem decode_texts {l : Lens (List Text)} {o : Bool} (hv : isNull v = false)
    {items : List (Option Text)} (hitems : looseItems? v = some items) (old : List Text) :
    decode (.texts l o) old v = some (overlay old items) := by
  cases v with
  | scalar m =>
    cases m with
    | null => cases hv
    | _ => exact congrArg (Option.map (overlay old)) hitems
  | list items => exact congrArg (Option.map (overlay old)) hitems
  | map es => cases hitems

/-- What does not stand for items gives the same list whatever the field held before. -/
theorem decode_texts_of_none {l : Lens (List Text)} {o : Bool} (hv : isNull v = false)
    (hitems : looseItems? v = none) (old old' : List Text) :
    decode (.texts l o) old v = decode (.texts l o) old' v := by
  have hnone : ∀ old : List Text, (looseItems? v).map (overlay old) = none := by
    intro old
    rw [hitems]
    rfl
  cases v with
  | scalar m =>
    cases m with
    | null => cases hv
    | _ => exact (hnone old).trans (hnone old').symm
  | list items => exact (hnone old).trans (hnone old').symm
  | map es => rfl

/-- Does a list say how it begins? One without items does not, nor does one whose first item is
nothing. -/
def Begins (v : Value) : Prop := ∀ items, looseItems? v = some items → ∃ t rest, items = some t :: rest

/-- **Laid over a list of one text, a list replaces it exactly if it says how it begins.** -/
theorem overlay_singleton_iff {t : Text} (ht : t ≠ []) (items : List (Option Text)) :
    overlay [t] items = overlay [] items ↔ ∃ u rest, items = some u :: rest := by
  cases items with
  | nil =>
    constructor
    · intro h
      cases h
    · rintro ⟨u, rest, h⟩
      cases h
  | cons item rest =>
    cases item with
    | some u => exact ⟨fun _ => ⟨u, rest, rfl⟩, fun _ => rfl⟩
    | none =>
      constructor
      · intro h
        exact absurd (List.cons.inj h).1 ht
      · rintro ⟨u, rest', h⟩
        cases h

/-- Texts laid over a list replace its beginning. -/
theorem overlay_map_some (old ts : List Text) :
    overlay old (ts.map some) = ts ++ old.drop ts.length := by
  induction ts generalizing old with
  | nil =>
    cases old <;> rfl
  | cons t ts ih =>
    cases old with
    | nil => simp [overlay, ih]
    | cons o old => simp [overlay, ih]

theorem decode_texts_singleton_iff {l : Lens (List Text)} {o : Bool} (hv : isNull v = false)
    {t : Text} (ht : t ≠ []) {a : List Text} (h : decode (.texts l o) [t] v = some a) :
    decode (.texts l o) [] v = some a ↔ Begins v := by
  cases hitems : looseItems? v with
  | none =>
    rw [decode_texts_of_none hv hitems [t] []] at h
    exact ⟨fun _ items hsome => (Option.some_ne_none _ (hsome.symm.trans hitems)).elim, fun _ => h⟩
  | some items =>
    rw [decode_texts hv hitems] at h ⊢
    cases h
    rw [Option.some.injEq, eq_comm, overlay_singleton_iff ht]
    refine ⟨fun hbegin items' hsome => ?_, fun hbegin => hbegin items hitems⟩
    cases hitems.symm.trans hsome
    exact hbegin

end Settings

namespace Field

open Settings (flagOf? standard)

/-- The brokers. -/
def brokers : Field :=
  ⟨"transport", "brokers",
    .texts (ofTransport (·.brokers) fun a t => { t with brokers := a }) false⟩

theorem brokers_mem : brokers ∈ all :=
  List.mem_of_getElem? (show all[8]? = some brokers from rfl)

/-- The brokers are the only list that has a flag. -/
theorem key_eq_brokers : ∀ f ∈ all, f.slot.isTexts = true → (flagOf? f).isSome = true →
    f.key = brokers.key := by decide +kernel

end Field

namespace Settings

/-- **A field holds what is given for it read into a field that was empty, but for a list of brokers
that does not say how it begins.** -/
theorem decode_blank_iff (hf : f ∈ Field.all) (hflag : (flagOf? f).isSome) (hv : isNull v = false)
    {a : f.slot.Content} (h : decode f.slot (f.slot.lens.get standard) v = some a) :
    decode f.slot f.slot.blank v = some a ↔ (f.key = Field.brokers.key → Begins v) := by
  by_cases hkey : f.key = Field.brokers.key
  · cases Field.eq_of_key_eq hf Field.brokers_mem hkey
    have hlist := decode_texts_singleton_iff hv (by decide) h
    exact hlist.trans ⟨fun hbegins _ => hbegins, fun hbegins => hbegins rfl⟩
  · have hslot : ∀ l o, f.slot ≠ .texts l o := by
      intro l o htexts
      refine hkey (Field.key_eq_brokers f hf ?_ hflag)
      rw [htexts]
      rfl
    refine ⟨fun _ hbrokers => absurd hbrokers hkey, fun _ => ?_⟩
    rwa [decode_eq_of_not_texts hslot hv f.slot.blank (f.slot.lens.get standard)]

/-! ## What a flag that was given does to its field -/

/-- A value of a flag that its field takes as it is. -/
def Verbatim : Flag.Value → Prop
  | .text _ | .whole _ | .flag _ => True
  | _ => False

/-- **A text, a whole number and a truth value are found in the field as the flag gave them.** -/
theorem flagValue_eq_of_takes {x : Flag.Value} (hof : x.Of (flagType slot)) (hx : Verbatim x)
    (h : Takes (some (ofFlag x)) slot s s') : flagValue s' slot = x := by
  cases slot with
  | text l =>
    cases hof
    exact congrArg Flag.Value.text (Option.some.inj h).symm
  | texts l o =>
    cases hof
    exact hx.elim
  | word l =>
    cases hof with
    | @whole bits n hlo hhi =>
      have hword : Int64.ofInt n = l.get s' := Option.some.inj h
      refine congrArg Flag.Value.whole ?_
      rw [← hword]
      exact Int64.toInt_ofInt_of_le (by omega) (by omega)
  | shortWord l =>
    cases hof with
    | @whole bits n hlo hhi =>
      have hword : Int32.ofInt n = l.get s' := Option.some.inj h
      refine congrArg Flag.Value.whole ?_
      rw [← hword]
      exact Int32.toInt_ofInt_of_le (by omega) (by omega)
  | flag l =>
    cases hof
    exact congrArg Flag.Value.flag (Option.some.inj h).symm
  | number l =>
    cases hof
    exact hx.elim
  | duration l =>
    cases hof
    exact hx.elim

theorem looseItems?_texts (ts : List Text) :
    looseItems? (.list (ts.map fun t => .scalar (.text t))) = some (ts.map some) := by
  change List.mapM looseItem? _ = _
  induction ts with
  | nil => rfl
  | cons t ts ih =>
    rw [List.map_cons, List.mapM_cons, ih]
    rfl

/-- A list that was given replaces the one broker there was, unless it is empty or was handed on as
empty. -/
theorem brokers_eq_of_takes {ts : List Text}
    (h : Takes (some (ofFlag (.texts ts))) Field.brokers.slot standard s) :
    s.transport.brokers =
      if ts = [] ∨ ts = [[]] then standard.transport.brokers else ts.map lineFed := by
  by_cases hnone : ts = [] ∨ ts = [[]]
  · rw [if_pos hnone]
    rcases hnone with rfl | rfl <;> exact (Option.some.inj h).symm
  · rw [if_neg hnone]
    have hflag : ofFlag (.texts ts) = .list ((ts.map lineFed).map fun t => .scalar (.text t)) := by
      have hone : (ts == [[]]) = false := beq_eq_false_iff_ne.mpr fun hts => hnone (.inr hts)
      simp only [ofFlag, hone, Bool.false_eq_true, if_false, List.map_map, Function.comp_def]
    rw [hflag] at h
    have htaken : some (overlay [Text.ofString "localhost:9092"] ((ts.map lineFed).map some)) =
        some s.transport.brokers := (decode_texts rfl (looseItems?_texts _) _).symm.trans h
    have hlong : 1 ≤ (ts.map lineFed).length := by
      rw [List.length_map]
      exact List.length_pos_iff.mpr fun hts => hnone (.inl hts)
    rw [overlay_map_some, List.drop_eq_nil_of_le hlong, List.append_nil] at htaken
    exact (Option.some.inj htaken).symm

theorem exists_of_any {ε α : Type} {x : Except ε α} {q : α → Bool}
    (h : x.toOption.any q = true) : ∃ a, x = .ok a ∧ q a = true := by
  cases x with
  | error e => cases h
  | ok a => exact ⟨a, rfl, h⟩

/-- The texts of a value that is a list of them. -/
def texts? : Flag.Value → Option (List Text)
  | .texts ts => some ts
  | _ => none

theorem eq_texts_of_texts? {x : Flag.Value} {ts : List Text} (h : texts? x = some ts) :
    x = .texts ts := by
  cases x with
  | texts ts' =>
    cases h
    rfl
  | _ => cases h

/-! ## The settings from all places -/

/-- **The settings that flags, variables and a document give**, field by field. -/
structure Layered (given : Text → Option Flag.Value) (env : Environment)
    (file : List (Text × Value)) (s : Settings) : Prop where
  /-- Every field with a flag takes what its flag, or else its variable, or else the document gives,
  and keeps its standard value if nothing does. -/
  takes : ∀ f ∈ Field.all, (flagOf? f).isSome →
    Takes (firstGiven? given env file f) f.slot standard s
  /-- What is given is all that the field holds, but for a list of brokers that does not say how it
  begins. -/
  decoded : ∀ f ∈ Field.all, (flagOf? f).isSome → ∀ v, firstGiven? given env file f = some v →
    (decode f.slot f.slot.blank v = some (f.slot.lens.get s) ↔
      (f.key = Field.brokers.key → Begins v))
  /-- Texts, whole numbers and truth values are taken from flags as they are. -/
  verbatim : ∀ f ∈ Field.all, ∀ n, flagOf? f = some n → ∀ x, given n = some x → Verbatim x →
    flagValue s f.slot = x
  /-- So are brokers, but for a list that is empty or has one empty item. -/
  brokers : ∀ ts, given "broker" = some (.texts ts) → s.transport.brokers =
    if ts = [] ∨ ts = [[]] then standard.transport.brokers else ts.map lineFed
  /-- What differs about one field changes no other field. -/
  frame : ∀ g ∈ Field.all, ∀ given' env' fs' path' file' s',
    documentAt env' fs' path' = .ok file' → SameBut g given env file given' env' file' →
      resolve (fun _ => true) given' env' fs' path' = .ok s' →
        ∀ f ∈ Field.all, f.key ≠ g.key → f.slot.lens.get s' = f.slot.lens.get s

/-- What settings from all places are made of. -/
theorem merge_of_resolve {known : Text → Bool} {fs : Files} {path : Text}
    (h : resolve known given env fs path = .ok s) :
    ∃ file, documentAt env fs path = .ok file ∧ merge known given env file = some s := by
  unfold resolve at h
  cases hfile : documentAt env fs path with
  | error e =>
    rw [hfile] at h
    cases h
  | ok file =>
    rw [hfile] at h
    simp only [bind, Except.bind] at h
    split at h
    · rename_i s' hmerge
      cases h
      exact ⟨file, rfl, hmerge⟩
    · cases h

/-- **Settings from several places.** Every field takes, independently of all others, what its flag,
or else its variable, or else its entry in the file gives, or else keeps its standard value. -/
theorem resolve_layered {args : List Text} {p : Flag.Parsed} {fs : Files} {path : Text}
    (hp : Flag.parse flags args = .ok p) (hsections : NoSections env)
    (hs : resolve (fun _ => true) p.get? env fs path = .ok s) :
    ∃ file, documentAt env fs path = .ok file ∧ Layered p.get? env file s := by
  obtain ⟨file, hfile, hmerge⟩ := merge_of_resolve hs
  have htakes : ∀ f ∈ Field.all, (flagOf? f).isSome →
      Takes (firstGiven? p.get? env file f) f.slot standard s := by
    intro f hf hflag
    rw [← given?_eq_firstGiven? hf hflag hsections]
    exact merge_takes hmerge hf
  -- a value that was given was read for its flag
  have hgiven : ∀ f ∈ Field.all, ∀ n, flagOf? f = some n → ∀ x, p.get? n = some x →
      x.Of (flagType f.slot) ∧ Takes (some (ofFlag x)) f.slot standard s := by
    intro f hf n hn x hx
    obtain ⟨fl, hfl, rfl, hof⟩ := (Flag.parse_typed hp).of_get? hx
    rw [Field.flag_type hfl hf hn] at hof
    have htaken := htakes f hf (by rw [hn]; rfl)
    rw [firstGiven?, hn, Option.bind_some, hx] at htaken
    exact ⟨hof, htaken⟩
  refine ⟨file, hfile, htakes, ?_, ?_, ?_, ?_⟩
  · intro f hf hflag v hv
    have htaken := htakes f hf hflag
    rw [hv] at htaken
    exact decode_blank_iff hf hflag (isNull_eq_false_of_firstGiven? hv) htaken
  · intro f hf n hn x hx hverbatim
    obtain ⟨hof, htaken⟩ := hgiven f hf n hn x hx
    exact flagValue_eq_of_takes hof hverbatim htaken
  · intro ts hts
    exact brokers_eq_of_takes (hgiven Field.brokers Field.brokers_mem _ (by decide +kernel) _ hts).2
  · intro g hg given' env' fs' path' file' s' hfile' hsame hs' f hf hne
    obtain ⟨file'', hfile'', hmerge'⟩ := merge_of_resolve hs'
    cases hfile''.symm.trans hfile'
    exact merge_frame hsame hf hg hne hmerge hmerge'

/-- A command line that asks for five copies. -/
def fiveCopies : List Text := ["--multiplier", "5"]

/-- An environment that names a topic. -/
def withTopic : Environment := [("NEVENTGEN_TRANSPORT_TOPIC", "out")]

/-- A settings file that asks for two copies and three passes. -/
def withPasses : Files :=
  .ofList [("in.yaml", "multiplier: 2\nflow:\n  repeat: 3\n")]

/-- One field from each place. -/
theorem resolve_layered_five_copies : ∃ p s file, Flag.parse flags fiveCopies = .ok p ∧
    resolve (fun _ => true) p.get? withTopic withPasses "in.yaml" = .ok s ∧
    s.multiplier = 5 ∧ s.transport.topic = "out" ∧ s.flow.passes = 3 ∧ s.format = "ev42" ∧
    documentAt withTopic withPasses "in.yaml" = .ok file ∧ Layered p.get? withTopic file s := by
  have hruns : ((Flag.parse flags fiveCopies).toOption.any fun p =>
      (resolve (fun _ => true) p.get? withTopic withPasses "in.yaml").toOption.any fun s =>
        s.multiplier == 5 && s.transport.topic == Text.ofString "out" && s.flow.passes == 3 &&
          s.format == Text.ofString "ev42") = true := by decide +kernel
  obtain ⟨p, hp, hruns⟩ := exists_of_any hruns
  obtain ⟨s, hs, hvalues⟩ := exists_of_any hruns
  simp only [Bool.and_eq_true, beq_iff_eq] at hvalues
  obtain ⟨⟨⟨hmultiplier, htopic⟩, hpasses⟩, hformat⟩ := hvalues
  obtain ⟨file, hfile, hlayered⟩ := resolve_layered hp (by decide +kernel) hs
  exact ⟨p, s, file, hp, hs, hmultiplier, htopic, hpasses, hformat, hfile, hlayered⟩

/-- **An empty list of brokers on the command line does not count**: the standard broker stays. -/
theorem empty_brokers_not_taken : ¬ ∀ (args : List Text) (p : Flag.Parsed) (env : Environment)
    (fs : Files) (path : Text) (s : Settings) (file : List (Text × Value)),
    Flag.parse flags args = .ok p → NoSections env →
      resolve (fun _ => true) p.get? env fs path = .ok s → documentAt env fs path = .ok file →
        ∀ f ∈ Field.all, (flagOf? f).isSome → ∀ v, firstGiven? p.get? env file f = some v →
          decode f.slot f.slot.blank v = some (f.slot.lens.get s) := by
  intro h
  have hruns : ((Flag.parse flags ["--broker", ""]).toOption.any fun p =>
      (p.get? "broker").bind texts? == some [] &&
        (resolve (fun _ => true) p.get? [] {} []).toOption.any fun s =>
          s.transport.brokers == [Text.ofString "localhost:9092"]) = true := by decide +kernel
  obtain ⟨p, hp, hruns⟩ := exists_of_any hruns
  obtain ⟨hbroker, hruns⟩ := Bool.and_eq_true_iff.mp hruns
  obtain ⟨s, hs, hvalue⟩ := exists_of_any hruns
  have hget : p.get? "broker" = some (.texts []) := by
    obtain ⟨x, hx, htexts⟩ := Option.bind_eq_some_iff.mp (beq_iff_eq.mp hbroker)
    rw [hx, eq_texts_of_texts? htexts]
  have hflag : flagOf? Field.brokers = some (Text.ofString "broker") := by decide +kernel
  have hfirst : firstGiven? p.get? [] [] Field.brokers = some (.list []) := by
    unfold firstGiven?
    rw [hflag, Option.bind_some, hget]
    rfl
  have hbrokers := h _ p [] {} [] s [] hp (by decide +kernel) hs rfl Field.brokers
    Field.brokers_mem (by rw [hflag]; rfl) _ hfirst
  rw [show Field.brokers.slot.lens.get s = s.transport.brokers from rfl, beq_iff_eq.mp hvalue]
    at hbrokers
  cases hbrokers

end Settings

end DetectorStream
