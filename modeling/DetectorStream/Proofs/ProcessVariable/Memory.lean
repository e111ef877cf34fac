import DetectorStream.ProcessVariable.Memory
import Mathlib.Data.List.Nodup

/-!
# What memory keeps

Callers write through their slices as they like. No slice ever shows the array of a row, since a row is
copied when it is set and when it is read, so that such a write changes no field.

* `Structure.ofFields_eq_ok`, `Structure.ofFields_eq_error`: which fields make a structure.
* `Channel.told`, `Channel.Read`: what a channel tells of a place, and in which order it is refused.
* `Memory.told_eq`, `Memory.lookup_eq`: the channel of values tells what stands in memory.
* `Memory.Sound`: slices fit their arrays, and none of them shows a row.
* `Memory.Sound.copyInto`: a row that is read shows in full, whatever the slice was.
* **`Memory.Sound.step_cases`**: an operation puts a structure, or changes the fields that it sets and no
  others.
* **`Memory.Sound.step`**: memory stays sound.
-/

namespace DetectorStream.ProcessVariable

/-! ## Structures of fields -/

namespace Structure

variable {s t : Structure} {name : Text} {f : Field} {fields : List (Option Field)}

theorem field?_isSome : (s.field? name).isSome = true ↔ name ∈ s.fields.map Field.name := by
  unfold field?
  rw [List.find?_isSome, List.mem_map]
  simp only [beq_iff_eq]

theorem name_of_field? (h : s.field? name = some f) : f.name = name := by
  unfold field? at h
  have hname := List.find?_some h
  exact beq_iff_eq.mp hname

/-- Replacing a field changes the field of its name, if there is one. -/
theorem field?_replace (s : Structure) (g : Field) (name : Text) :
    (s.replace g).field? name =
      if name = g.name then (s.field? name).map fun _ => g else s.field? name := by
  have hsame : ((fun k : Field => k.name == name) ∘ fun k => if k.name == g.name then g else k) =
      fun k => k.name == name := by
    funext k
    simp only [Function.comp_apply]
    split
    · rename_i heq
      rw [beq_iff_eq.mp heq]
    · rfl
  unfold replace field?
  rw [List.find?_map, hsame]
  cases hf : s.fields.find? fun k => k.name == name with
  | none => split <;> rfl
  | some k =>
    have hname : k.name = name := name_of_field? hf
    simp only [Option.map_some, hname, beq_iff_eq]
    split <;> rfl

/-- Fields are added if all are there and no name comes twice. -/
theorem addAll_eq_ok {i : Nat} (hs : (s.fields.map Field.name).Nodup) :
    addAll i s fields = .ok t ↔ ∃ new : List Field, fields = new.map some ∧
      t = ⟨s.fields ++ new⟩ ∧ (t.fields.map Field.name).Nodup := by
  induction fields generalizing i s with
  | nil =>
    rw [addAll]
    constructor
    · intro h
      cases h
      exact ⟨[], rfl, by rw [List.append_nil], hs⟩
    · rintro ⟨new, hnew, rfl, -⟩
      rw [List.map_eq_nil_iff.mp hnew.symm, List.append_nil]
  | cons head rest ih =>
    cases head with
    | none =>
      constructor
      · intro h
        cases h
      · rintro ⟨new, hnew, -⟩
        cases new <;> cases hnew
    | some f =>
      rw [addAll]
      by_cases hdup : f.name ∈ s.fields.map Field.name
      · rw [if_pos (field?_isSome.mpr hdup)]
        constructor
        · intro h
          cases h
        · rintro ⟨new, hnew, rfl, hnodup⟩
          obtain ⟨g, new, rfl, hg, -⟩ := List.map_eq_cons_iff.mp hnew.symm
          cases hg
          rw [List.map_append, List.nodup_append] at hnodup
          exact absurd rfl (hnodup.2.2 _ hdup _ List.mem_cons_self)
      · have hadded : ((⟨s.fields ++ [f]⟩ : Structure).fields.map Field.name).Nodup := by
          rw [List.map_append, List.nodup_append]
          refine ⟨hs, List.nodup_singleton _, fun a ha b hb heq => ?_⟩
          rw [List.map_singleton, List.mem_singleton] at hb
          exact hdup (hb ▸ heq ▸ ha)
        rw [if_neg (mt field?_isSome.mp hdup), ih hadded]
        constructor
        · rintro ⟨new, rfl, rfl, hnodup⟩
          exact ⟨f :: new, rfl, by rw [List.append_assoc]; rfl, hnodup⟩
        · rintro ⟨new, hnew, rfl, hnodup⟩
          obtain ⟨g, new, rfl, hg, hrest⟩ := List.map_eq_cons_iff.mp hnew.symm
          cases hg
          exact ⟨new, hrest.symm, by rw [List.append_assoc]; rfl, hnodup⟩

/-- **Fields make a structure exactly if all are there and their names differ.** -/
theorem ofFields_eq_ok : ofFields fields = .ok s ↔
    fields = s.fields.map some ∧ (s.fields.map Field.name).Nodup := by
  unfold ofFields
  rw [addAll_eq_ok (s := {}) List.nodup_nil]
  constructor
  · rintro ⟨new, rfl, rfl, hnodup⟩
    exact ⟨rfl, hnodup⟩
  · rintro ⟨hfields, hnodup⟩
    exact ⟨s.fields, hfields, rfl, hnodup⟩

theorem addAll_eq_error {i : Nat} {e : Fault} (h : addAll i s fields = .error e) :
    e.kind = .configuration := by
  induction fields generalizing i s with
  | nil => cases h
  | cons head rest ih =>
    cases head with
    | none =>
      cases h
      rfl
    | some f =>
      rw [addAll] at h
      split at h
      · cases h
        rfl
      · exact ih h

/-- Fields that make no structure are a mistake in the configuration. -/
theorem ofFields_eq_error {e : Fault} (h : ofFields fields = .error e) : e.kind = .configuration :=
  addAll_eq_error h

end Structure

/-! ## What is published -/

section Published

variable {α β : Type} {published : List (Text × α)} {pv pv' : Text}

theorem lookup_publish (published : List (Text × α)) (pv pv' : Text) (x : α) :
    (publish published pv x).lookup pv' = if pv' = pv then some x else published.lookup pv' := by
  unfold publish
  rw [List.lookup_cons]
  by_cases heq : pv' = pv
  · rw [if_pos heq, beq_iff_eq.mpr heq]
  · have hothers : (published.filter fun p => p.1 != pv).lookup pv' = published.lookup pv' := by
      induction published with
      | nil => rfl
      | cons p rest ih =>
        by_cases hp : p.1 = pv
        · rw [List.filter_cons_of_neg (by simpa using hp), ih, List.lookup_cons,
            beq_eq_false_iff_ne.mpr (hp ▸ heq)]
        · rw [List.filter_cons_of_pos (by simpa using hp), List.lookup_cons, List.lookup_cons, ih]
    rw [if_neg heq, beq_eq_false_iff_ne.mpr heq]
    exact hothers

theorem lookup_map (g : α → β) (published : List (Text × α)) (pv : Text) :
    (published.map fun p => (p.1, g p.2)).lookup pv = (published.lookup pv).map g := by
  induction published with
  | nil => rfl
  | cons p rest ih =>
    rw [List.map_cons, List.lookup_cons, List.lookup_cons, ih]
    cases pv == p.1 <;> rfl

theorem publish_map (g : α → β) (published : List (Text × α)) (pv : Text) (x : α) :
    (publish published pv x).map (fun p => (p.1, g p.2)) =
      publish (published.map fun p => (p.1, g p.2)) pv (g x) := by
  unfold publish
  rw [List.map_cons, List.filter_map]
  rfl

end Published

/-! ## What a channel tells -/

namespace Field

@[simp] theorem name_setValue (v : Int64) (f : Field) : (f.setValue v).name = f.name := by
  cases f <;> rfl

@[simp] theorem name_setValues (vs : List UInt64) (f : Field) : (f.setValues vs).name = f.name := by
  cases f <;> rfl

end Field

namespace Channel

variable {c : Channel} {ctx : Context} {pv name : Text}

/-- The field that stands at a place, if there is one. -/
def told (c : Channel) (pv name : Text) : Option Field :=
  (c.published.lookup pv).bind (·.field? name)

theorem told_of_known {s : Structure} (hs : c.published.lookup pv = some s) (name : Text) :
    c.told pv name = s.field? name := by
  unfold told
  rw [hs, Option.bind_some]

theorem told_of_unknown (hs : c.published.lookup pv = none) (name : Text) :
    c.told pv name = none := by
  unfold told
  rw [hs, Option.bind_none]

/-- **How a field is read**, as a value of one shape. Each refusal comes only if those before it do not:
the context ended, the variable is unknown, the field is missing, or it has the other shape. -/
inductive Read {α : Type} (c : Channel) (ctx : Context) (pv name : Text) (value? : Field → Option α) :
    Except Fault α → Prop
  | cancelled {f why : Fault} (ended : ctx.fault? = some why) (kind : f.kind = .cancelled) :
      Read c ctx pv name value? (.error f)
  | unavailable {f : Fault} (live : ctx.fault? = none) (unknown : c.published.lookup pv = none)
      (kind : f.kind = .sourceUnavailable) : Read c ctx pv name value? (.error f)
  | missing {f : Fault} {s : Structure} (live : ctx.fault? = none)
      (known : c.published.lookup pv = some s) (absent : c.told pv name = none)
      (kind : f.kind = .missingField) : Read c ctx pv name value? (.error f)
  | mismatched {f : Fault} {g : Field} (live : ctx.fault? = none) (there : c.told pv name = some g)
      (other : value? g = none) (kind : f.kind = .fieldType) : Read c ctx pv name value? (.error f)
  | found {g : Field} {x : α} (live : ctx.fault? = none) (there : c.told pv name = some g)
      (value : value? g = some x) : Read c ctx pv name value? (.ok x)

/-- How a field is found, before its shape is looked at. -/
theorem field_read (c : Channel) (ctx : Context) (pv name : Text) :
    c.Read ctx pv name some (c.field ctx pv name) := by
  unfold field get serve
  cases hctx : ctx.fault? with
  | some why => exact .cancelled hctx rfl
  | none =>
    cases hs : c.published.lookup pv with
    | none => exact .unavailable hctx hs rfl
    | some s =>
      have htold := told_of_known hs name
      simp only
      cases hf : s.field? name with
      | none => exact .missing hctx hs (htold.trans hf) rfl
      | some g => exact .found hctx (htold.trans hf) rfl

/-- A field that is found is read, or has the other shape. -/
theorem Read.bind {α : Type} {value? : Field → Option α} {r : Except Fault Field}
    (h : c.Read ctx pv name some r) (refuse : Field → Fault) (hkind : ∀ g, (refuse g).kind = .fieldType) :
    c.Read ctx pv name value? (r.bind fun g => (value? g).elim (.error (refuse g)) .ok) := by
  cases h with
  | cancelled ended kind => exact .cancelled ended kind
  | unavailable live unknown kind => exact .unavailable live unknown kind
  | missing live known absent kind => exact .missing live known absent kind
  | mismatched live there other kind => cases other
  | @found g f live there value =>
    cases value
    show c.Read ctx pv name value? ((value? g).elim (.error (refuse g)) .ok)
    cases hvalue : value? g with
    | none => exact .mismatched live there hvalue (hkind g)
    | some x => exact .found live there hvalue

theorem scalar_eq (c : Channel) (ctx : Context) (pv name : Text) :
    c.scalar ctx pv name = (c.field ctx pv name).bind fun g =>
      g.single?.elim (.error (mismatch pv g .scalar)) .ok := by
  unfold scalar
  rcases c.field ctx pv name with f | (g | g) <;> rfl

theorem array_eq (c : Channel) (ctx : Context) (pv name : Text) :
    c.array ctx pv name = (c.field ctx pv name).bind fun g =>
      g.row?.elim (.error (mismatch pv g .array)) .ok := by
  unfold array
  rcases c.field ctx pv name with f | (g | g) <;> rfl

/-- **How a single value is read.** -/
theorem scalar_read (c : Channel) (ctx : Context) (pv name : Text) :
    c.Read ctx pv name Field.single? (c.scalar ctx pv name) := by
  rw [scalar_eq]
  exact (c.field_read ctx pv name).bind (mismatch pv · .scalar) fun _ => rfl

/-- **How a row of values is read.** -/
theorem array_read (c : Channel) (ctx : Context) (pv name : Text) :
    c.Read ctx pv name Field.row? (c.array ctx pv name) := by
  rw [array_eq]
  exact (c.field_read ctx pv name).bind (mismatch pv · .array) fun _ => rfl

/-- **Putting a structure replaces the one before it as a whole**, and no other. -/
theorem told_put (c : Channel) (pv : Text) (s : Structure) (pv' name : Text) :
    (c.put pv s).told pv' name = if pv' = pv then s.field? name else c.told pv' name := by
  unfold told put
  simp only
  rw [lookup_publish]
  by_cases heq : pv' = pv
  · rw [if_pos heq, if_pos heq, Option.bind_some]
  · rw [if_neg heq, if_neg heq]

/-- **Changing a field changes one place.** -/
theorem told_update (c : Channel) (pv name : Text) {g : Field → Field}
    (hname : ∀ f, (g f).name = f.name) (pv' name' : Text) :
    (c.update pv name g).told pv' name' =
      if pv' = pv ∧ name' = name then (c.told pv name).map g else c.told pv' name' := by
  have hnone (hnot : c.told pv name = none) : c.told pv' name' =
      if pv' = pv ∧ name' = name then (c.told pv name).map g else c.told pv' name' := by
    split
    · rename_i hplace
      rw [hplace.1, hplace.2, hnot]
      rfl
    · rfl
  unfold update
  cases hs : c.published.lookup pv with
  | none => exact hnone (told_of_unknown hs name)
  | some s =>
    have htold := told_of_known hs
    simp only
    cases hf : s.field? name with
    | none => exact hnone ((htold name).trans hf)
    | some f =>
      simp only
      have hgname : (g f).name = name := (hname f).trans (Structure.name_of_field? hf)
      rw [told_put, Structure.field?_replace, hgname, htold, hf]
      by_cases hpv : pv' = pv
      · rw [if_pos hpv, hpv, htold]
        by_cases hn : name' = name
        · rw [if_pos hn, if_pos ⟨rfl, hn⟩, hn, hf]
          rfl
        · rw [if_neg hn, if_neg (fun h => hn h.2)]
      · rw [if_neg hpv, if_neg (fun h => hpv h.1)]

end Channel

/-! ## Memory -/

/-- The fields that an operation publishes if they make a structure, and for which variable. -/
def Op.publishes? : Op → Option (Text × List (Option Nat))
  | .put pv os => some (pv, os)
  | .blank pv => some (pv, [])
  | _ => none

namespace Memory

/-! ### Places -/

variable {m m' : Memory} {o a : Nat} {pv name : Text} {f : Field} {xs : List UInt64} {w : Slice}

/-- The field of a name in a structure is the one that is found. -/
theorem field?_structureOf (m : Memory) (os : List Nat) (name : Text) :
    (m.structureOf os).field? name = (m.find? name os).bind m.field? :=
  List.find?_filterMap

theorem lookup_channel (m : Memory) (pv : Text) :
    m.channel.published.lookup pv = (m.published.lookup pv).map m.structureOf :=
  lookup_map m.structureOf m.published pv

/-- **What the channel tells of a place is the field that stands there.** -/
theorem told_eq (m : Memory) (pv name : Text) :
    m.channel.told pv name = (m.standing pv name).bind m.field? := by
  unfold Channel.told standing
  rw [lookup_channel]
  cases m.published.lookup pv with
  | none => rfl
  | some os => exact m.field?_structureOf os name

/-- A look-up in memory is one in the channel. -/
theorem lookup_eq (m : Memory) (ctx : Context) (pv name : Text) :
    m.lookup ctx pv name = m.channel.field ctx pv name := by
  unfold lookup Channel.field Channel.get serve
  cases ctx.fault? with
  | some why => rfl
  | none =>
    simp only [lookup_channel]
    cases m.published.lookup pv with
    | none => rfl
    | some os =>
      cases hf : (m.find? name os).bind m.field? with
      | none => simp only [Option.map_some, field?_structureOf, hf]
      | some f => simp only [Option.map_some, field?_structureOf, hf]

/-- What stands at a place has the name of the place. -/
theorem name_of_standing (h : m.standing pv name = some o) :
    ∃ f, m.field? o = some f ∧ f.name = name := by
  obtain ⟨os, -, hfind⟩ := Option.bind_eq_some_iff.mp h
  have hname := List.find?_some hfind
  rw [Option.any_eq_true] at hname
  obtain ⟨f, hf, hname⟩ := hname
  exact ⟨f, hf, beq_iff_eq.mp hname⟩

/-! ### Sound memory -/

/-- No slice shows the array. -/
structure Free (m : Memory) (a : Nat) : Prop where
  there : a < m.arrays.length
  unseen : ∀ s, (m.slice s).array ≠ a

/-- The array is the row of a field. -/
def IsRow (m : Memory) (a : Nat) : Prop := ∃ x ∈ m.objects, x.content = .row a

/-- The slice lies in its array. -/
def Fits (m : Memory) (w : Slice) : Prop :=
  ∃ xs, m.arrays[w.array]? = some xs ∧ w.length ≤ w.capacity ∧ w.start + w.capacity ≤ xs.length

/-- **Memory is sound**: slices fit their arrays, no slice shows a row, and what is published is
there. -/
structure Sound (m : Memory) : Prop where
  fits : ∀ s, m.Fits (m.slice s)
  free : ∀ a, m.IsRow a → m.Free a
  made : ∀ p ∈ m.published, ∀ o ∈ p.2, o < m.objects.length

theorem sound_empty : Sound {} where
  fits _ := ⟨[], rfl, Nat.le_refl _, Nat.le_refl _⟩
  free _ := by
    rintro ⟨_, hmem, -⟩
    exact absurd hmem List.not_mem_nil
  made _ hmem := absurd hmem List.not_mem_nil

/-- A field is the same if its row is. -/
theorem field?_congr (hobject : m'.objects[o]? = m.objects[o]?)
    (hrows : ∀ a, m.IsRow a → m'.arrays[a]? = m.arrays[a]?) : m'.field? o = m.field? o := by
  unfold field?
  rw [hobject]
  cases hx : m.objects[o]? with
  | none => rfl
  | some x =>
    have hread : m'.read x = m.read x := by
      obtain ⟨name, element, content⟩ := x
      cases content with
      | value v => rfl
      | row a =>
        have hrow := hrows a ⟨_, List.mem_of_getElem? hx, rfl⟩
        unfold read
        simp only [hrow]
    exact congrArg some hread

/-! What stays when an array is added, written to or shown. -/

theorem fits_grow (h : m.Fits w) (xs : List UInt64) : (m.grow xs).Fits w := by
  obtain ⟨ys, hys, hlength, hstart⟩ := h
  refine ⟨ys, ?_, hlength, hstart⟩
  exact (List.getElem?_append_left (List.getElem?_eq_some_iff.mp hys).1).trans hys

theorem Free.grow (h : m.Free a) (xs : List UInt64) : (m.grow xs).Free a where
  there := by
    unfold Memory.grow
    rw [List.length_append]
    exact Nat.lt_add_right _ h.there
  unseen := h.unseen

theorem Sound.grow (h : m.Sound) (xs : List UInt64) : (m.grow xs).Sound where
  fits s := fits_grow (h.fits s) xs
  free a ha := (h.free a ha).grow xs
  made := h.made

theorem Sound.field?_grow (h : m.Sound) (xs : List UInt64) (o : Nat) :
    (m.grow xs).field? o = m.field? o :=
  field?_congr rfl fun a ha => List.getElem?_append_left (h.free a ha).there

/-- A new array is shown by no slice. -/
theorem Sound.free_grow (h : m.Sound) (xs : List UInt64) : (m.grow xs).Free m.arrays.length where
  there := by
    unfold Memory.grow
    rw [List.length_append]
    exact Nat.lt_succ_self _
  unseen s := by
    obtain ⟨ys, hys, -⟩ := h.fits s
    exact Nat.ne_of_lt (List.getElem?_eq_some_iff.mp hys).1

theorem getElem?_grow (m : Memory) (xs : List UInt64) :
    (m.grow xs).arrays[m.arrays.length]? = some xs :=
  List.getElem?_concat_length

theorem slice_hold (m : Memory) (w : Slice) (s : Nat) :
    (m.hold w).slice s = w ∨ (m.hold w).slice s = m.slice s := by
  unfold Memory.slice hold
  rcases Nat.lt_trichotomy s m.slices.length with hlt | rfl | hgt
  · exact .inr (by rw [List.getElem?_append_left hlt])
  · exact .inl (by rw [List.getElem?_concat_length, Option.getD_some])
  · refine .inr ?_
    rw [List.getElem?_eq_none (by rw [List.length_append]; exact hgt),
      List.getElem?_eq_none (Nat.le_of_lt hgt)]

/-- A slice may be held if it fits and shows no row. -/
theorem Sound.hold (h : m.Sound) (hfits : m.Fits w) (hfree : ∀ a, m.IsRow a → w.array ≠ a) :
    (m.hold w).Sound where
  fits s := by
    rcases slice_hold m w s with hs | hs <;> rw [hs]
    · exact hfits
    · exact h.fits s
  free a ha := by
    refine ⟨(h.free a ha).there, fun s => ?_⟩
    rcases slice_hold m w s with hs | hs <;> rw [hs]
    · exact hfree a ha
    · exact (h.free a ha).unseen s
  made := h.made

section Change

variable {g : List UInt64 → List UInt64}

theorem fits_change (h : m.Fits w) (a : Nat)
    (hlength : ∀ xs, m.arrays[a]? = some xs → (g xs).length = xs.length) :
    (m.change a g).Fits w := by
  obtain ⟨ys, hys, hle, hstart⟩ := h
  have hchanged : (m.change a g).arrays[w.array]? = some (if a = w.array then g ys else ys) := by
    unfold change
    rw [List.getElem?_modify, hys]
    rfl
  refine ⟨_, hchanged, hle, ?_⟩
  split
  · rename_i heq
    rw [hlength ys (heq ▸ hys)]
    exact hstart
  · exact hstart

/-- An array that is no row may be written to in place. -/
theorem Sound.change (h : m.Sound) (hfree : ∀ b, m.IsRow b → a ≠ b)
    (hlength : ∀ xs, m.arrays[a]? = some xs → (g xs).length = xs.length) :
    (m.change a g).Sound ∧ ∀ o, (m.change a g).field? o = m.field? o := by
  refine ⟨⟨fun s => fits_change (h.fits s) a hlength, fun b hb => ?_, h.made⟩, fun o => ?_⟩
  · refine ⟨?_, (h.free b hb).unseen⟩
    unfold Memory.change
    rw [List.length_modify]
    exact (h.free b hb).there
  · refine field?_congr rfl fun b hb => ?_
    unfold Memory.change
    rw [List.getElem?_modify]
    simp only [hfree b hb, if_false]
    exact Option.map_id'

end Change

/-- **What was there is kept**: the same fields are published, and none has changed. -/
structure Kept (m m' : Memory) : Prop where
  sound : m'.Sound
  published : m'.published = m.published
  there : m.objects.length ≤ m'.objects.length
  field? : ∀ o < m.objects.length, m'.field? o = m.field? o

theorem Sound.kept (h : m.Sound) : m.Kept m := ⟨h, rfl, Nat.le_refl _, fun _ _ => rfl⟩

/-- A slice of an array that was just added may be held. -/
theorem Sound.kept_hold_grow {start length capacity : Nat} (h : m.Sound)
    (hfits : (m.grow xs).Fits ⟨m.arrays.length, start, length, capacity⟩) :
    m.Kept ((m.grow xs).hold ⟨m.arrays.length, start, length, capacity⟩) where
  sound := (h.grow xs).hold hfits fun a ha => Nat.ne_of_gt (h.free a ha).there
  published := rfl
  there := Nat.le_refl _
  field? o _ := h.field?_grow xs o

/-- A part of a slice may be held. -/
theorem Sound.kept_cut (h : m.Sound) {s start stop : Nat} (hstart : start ≤ stop)
    (hstop : stop ≤ (m.slice s).capacity) :
    m.Kept (m.hold ⟨(m.slice s).array, (m.slice s).start + start, stop - start,
      (m.slice s).capacity - start⟩) := by
  obtain ⟨xs, hxs, -, hroom⟩ := h.fits s
  refine ⟨h.hold ⟨xs, hxs, ?_, ?_⟩ fun a ha => (h.free a ha).unseen s, rfl, Nat.le_refl _,
    fun _ _ => rfl⟩
  · exact Nat.sub_le_sub_right hstop start
  · show (m.slice s).start + start + ((m.slice s).capacity - start) ≤ xs.length
    omega

/-- A slice may be written through. -/
theorem Sound.kept_write (h : m.Sound) (s i : Nat) (x : UInt64) :
    m.Kept (m.change (m.slice s).array (·.set i x)) := by
  obtain ⟨hsound, hfields⟩ := h.change (a := (m.slice s).array) (g := (·.set i x))
    (fun a ha => (h.free a ha).unseen s) fun _ _ => List.length_set
  exact ⟨hsound, rfl, Nat.le_refl _, fun o _ => hfields o⟩

/-! What stays when a field is added or set. -/

/-- Fields may be added and set if every row is still shown by no slice. -/
theorem Sound.withObjects {objects : List Object} (h : m.Sound)
    (hlength : m.objects.length ≤ objects.length)
    (hrows : ∀ x ∈ objects, ∀ a, x.content = .row a → m.Free a) :
    ({ m with objects := objects } : Memory).Sound where
  fits := h.fits
  free a := by
    rintro ⟨x, hx, hrow⟩
    exact ⟨(hrows x hx a hrow).there, (hrows x hx a hrow).unseen⟩
  made p hp o ho := Nat.lt_of_lt_of_le (h.made p hp o ho) hlength

theorem Sound.add (h : m.Sound) (f : Field) : (m.add f).Sound := by
  cases f with
  | scalar name element v =>
    refine h.withObjects (by rw [List.length_append]; exact Nat.le_add_right _ _) fun x hx a hrow => ?_
    rcases List.mem_append.mp hx with hx | hx
    · exact h.free a ⟨x, hx, hrow⟩
    · rw [List.mem_singleton.mp hx] at hrow
      cases hrow
  | array name element vs =>
    refine (h.grow vs).withObjects (by rw [List.length_append]; exact Nat.le_add_right _ _)
      fun x hx a hrow => ?_
    rcases List.mem_append.mp hx with hx | hx
    · exact (h.free a ⟨x, hx, hrow⟩).grow vs
    · rw [List.mem_singleton.mp hx] at hrow
      cases hrow
      exact h.free_grow vs

/-- A new field is the one that was made. -/
theorem field?_add (m : Memory) (f : Field) : (m.add f).field? m.objects.length = some f := by
  cases f with
  | scalar name element v =>
    unfold Memory.add field?
    simp only [List.getElem?_concat_length]
    rfl
  | array name element vs =>
    have hread : (m.add (.array name element vs)).read ⟨name, element, .row m.arrays.length⟩ =
        .array name element vs := by
      unfold Memory.read
      simp only
      exact congrArg (Field.array name element) (congrArg (·.getD []) (m.getElem?_grow vs))
    unfold field?
    rw [show (m.add (.array name element vs)).objects =
      m.objects ++ [⟨name, element, .row m.arrays.length⟩] from rfl, List.getElem?_concat_length]
    exact congrArg some hread

/-- The other fields are as they were. -/
theorem Sound.field?_add (h : m.Sound) (f : Field) (ho : o < m.objects.length) :
    (m.add f).field? o = m.field? o := by
  refine field?_congr ?_ fun a ha => ?_
  · cases f <;> exact List.getElem?_append_left ho
  · cases f with
    | scalar => rfl
    | array name element vs => exact List.getElem?_append_left (h.free a ha).there

theorem Sound.kept_add (h : m.Sound) (f : Field) : m.Kept (m.add f) where
  sound := h.add f
  published := by cases f <;> rfl
  there := by cases f <;> exact (List.length_append ▸ Nat.le_add_right _ _)
  field? _ ho := h.field?_add f ho

theorem mem_modify {α : Type} {l : List α} {f : α → α} {i : Nat} {x : α} (h : x ∈ l.modify i f) :
    ∃ y ∈ l, x = y ∨ x = f y := by
  obtain ⟨j, hj⟩ := List.mem_iff_getElem?.mp h
  rw [List.getElem?_modify] at hj
  obtain ⟨y, hy, hx⟩ := Option.map_eq_some_iff.mp hj
  refine ⟨y, List.mem_of_getElem? hy, ?_⟩
  split at hx
  · exact .inr hx.symm
  · exact .inl hx.symm

theorem Sound.set (h : m.Sound) (o : Nat) (v : Int64) : (m.step (.set o v)).1.Sound := by
  refine h.withObjects (Nat.le_of_eq (List.length_modify _ _ _).symm) fun x hx a hrow => ?_
  obtain ⟨y, hy, rfl | rfl⟩ := mem_modify hx
  · exact h.free a ⟨x, hy, hrow⟩
  · unfold Object.setValue at hrow
    split at hrow
    · cases hrow
    · exact h.free a ⟨y, hy, hrow⟩

theorem Sound.setRow (h : m.Sound) (o s : Nat) : (m.step (.setRow o s)).1.Sound := by
  refine (h.grow _).withObjects (Nat.le_of_eq (List.length_modify _ _ _).symm) fun x hx a hrow => ?_
  obtain ⟨y, hy, rfl | rfl⟩ := mem_modify hx
  · exact (h.free a ⟨x, hy, hrow⟩).grow _
  · unfold Object.setRow at hrow
    split at hrow
    · exact (h.free a ⟨y, hy, hrow⟩).grow _
    · cases hrow
      exact h.free_grow _

/-- What an operation does to a field. -/
def altered (m : Memory) (o : Nat) : Op → Field → Field
  | .set o' v => if o' = o then Field.setValue v else id
  | .setRow o' s => if o' = o then Field.setValues (m.shown (m.slice s)) else id
  | _ => id

/-- Objects that change in place, where the others are read as before. -/
theorem field?_modify (m m' : Memory) {o' : Nat} {g : Object → Object} {set : Field → Field}
    (hobjects : m'.objects = m.objects.modify o' g) (hread : ∀ x, m'.read x = m.read x)
    (hset : ∀ x, m'.read (g x) = set (m.read x)) (o : Nat) :
    m'.field? o = (m.field? o).map (if o' = o then set else id) := by
  unfold field?
  rw [hobjects, List.getElem?_modify]
  cases m.objects[o]? with
  | none => rfl
  | some x =>
    refine congrArg some ?_
    simp only
    by_cases heq : o' = o
    · rw [if_pos heq, if_pos heq]
      exact hset x
    · rw [if_neg heq, if_neg heq]
      exact hread x

@[simp] theorem name_altered (m : Memory) (o : Nat) (op : Op) (f : Field) :
    (m.altered o op f).name = f.name := by
  cases op with
  | set o' v =>
    simp only [altered]
    split
    · exact Field.name_setValue v f
    · rfl
  | setRow o' s =>
    simp only [altered]
    split
    · exact Field.name_setValues _ f
    · rfl
  | _ => rfl

theorem field?_set (m : Memory) (o' : Nat) (v : Int64) (o : Nat) :
    (m.step (.set o' v)).1.field? o = (m.field? o).map (m.altered o (.set o' v)) := by
  refine field?_modify m (m.step (.set o' v)).1 rfl (fun _ => rfl) (fun x => ?_) o
  obtain ⟨name, element, content⟩ := x
  cases content <;> rfl

theorem Sound.field?_setRow (h : m.Sound) (o' s o : Nat) :
    (m.step (.setRow o' s)).1.field? o = (m.field? o).map (m.altered o (.setRow o' s)) := by
  let vs := m.shown (m.slice s)
  rw [← h.field?_grow vs o]
  refine field?_modify (m.grow vs) (m.step (.setRow o' s)).1 rfl (fun _ => rfl) (fun x => ?_) o
  obtain ⟨name, element, content⟩ := x
  cases content with
  | value v => rfl
  | row a => exact congrArg (Field.array name element) (congrArg (·.getD []) (m.getElem?_grow vs))

/-! ### Reading into a slice -/

theorem length_splice {start : Nat} {vs : List UInt64} (h : start + vs.length ≤ xs.length) :
    (splice start vs xs).length = xs.length := by
  unfold splice
  rw [List.length_append, List.length_append, List.length_take, List.length_drop]
  omega

theorem take_drop_splice {start : Nat} {vs : List UInt64} (h : start ≤ xs.length) :
    ((splice start vs xs).drop start).take vs.length = vs := by
  unfold splice
  rw [List.append_assoc, List.drop_left' (List.length_take_of_le h), List.take_left]

/-- **A row is copied into a slice as a whole**, whatever the slice showed and whatever its room. -/
theorem Sound.copyInto (h : m.Sound) (s : Nat) (vs : List UInt64) :
    m.Kept (m.copyInto (m.slice s) vs).1 ∧
      (m.copyInto (m.slice s) vs).1.shown (m.copyInto (m.slice s) vs).2 = vs := by
  obtain ⟨xs, hxs, -, hroom⟩ := h.fits s
  have hfree := fun a ha => (h.free a ha).unseen s
  unfold Memory.copyInto
  split
  · rename_i hsmall
    have hfits : (m.grow vs).Fits ⟨m.arrays.length, 0, vs.length, vs.length⟩ :=
      ⟨vs, m.getElem?_grow vs, Nat.le_refl _, Nat.le_of_eq (Nat.zero_add _)⟩
    refine ⟨h.kept_hold_grow hfits, ?_⟩
    unfold Memory.shown
    rw [show ((m.grow vs).hold ⟨m.arrays.length, 0, vs.length, vs.length⟩).arrays =
      (m.grow vs).arrays from rfl, m.getElem?_grow vs]
    exact List.take_length
  · rename_i henough
    have hlength : (m.slice s).start + vs.length ≤ xs.length := by omega
    obtain ⟨hsound, hfields⟩ := h.change (a := (m.slice s).array)
      (g := splice (m.slice s).start vs) hfree fun ys hys => by
        cases hxs.symm.trans hys
        exact length_splice hlength
    have hchanged : (m.change (m.slice s).array (splice (m.slice s).start vs)).arrays[
        (m.slice s).array]? = some (splice (m.slice s).start vs xs) := by
      unfold Memory.change
      rw [List.getElem?_modify, hxs]
      simp only [if_true, Option.map_eq_map, Option.map_some]
    have hfits : (m.change (m.slice s).array (splice (m.slice s).start vs)).Fits
        { m.slice s with length := vs.length } :=
      ⟨_, hchanged, Nat.le_of_not_lt henough, by rw [length_splice hlength]; exact hroom⟩
    refine ⟨⟨hsound.hold hfits hfree, rfl, Nat.le_refl _, fun o _ => hfields o⟩, ?_⟩
    unfold Memory.shown
    exact (congrArg (fun ys => ((Option.getD ys []).drop _).take _) hchanged).trans
      (take_drop_splice (Nat.le_of_add_right_le hlength))

/-! ### Putting a structure -/

/-- The structure that an operation puts, and for which variable. -/
def puts? (m : Memory) (op : Op) : Option (Text × Structure) :=
  op.publishes?.bind fun (pv, os) => (Structure.ofFields (os.map (·.bind m.field?))).toOption.map (pv, ·)

section Put

variable {op : Op} {os : List (Option Nat)} {s : Structure}

/-- What is published is what was put. -/
theorem structureOf_reduceOption (h : Structure.ofFields (os.map (·.bind m.field?)) = .ok s) :
    m.structureOf os.reduceOption = s := by
  have hfields : os.reduceOption.filterMap m.field? = s.fields := calc
    os.reduceOption.filterMap m.field?
      = (os.map (·.bind m.field?)).filterMap id := by
        rw [List.reduceOption, List.filterMap_filterMap, List.filterMap_map]
        rfl
    _ = s.fields := by
        rw [(Structure.ofFields_eq_ok.mp h).1, List.filterMap_map]
        exact List.filterMap_some
  exact congrArg Structure.mk hfields

theorem step_put_ok (hop : op.publishes? = some (pv, os))
    (hs : Structure.ofFields (os.map (·.bind m.field?)) = .ok s) : m.step op =
      ({ m with published := publish m.published pv os.reduceOption }, .done) := by
  cases op with
  | put pv' os' =>
    cases hop
    unfold step
    simp only [hs]
  | blank pv' =>
    cases hop
    rfl
  | _ => cases hop

theorem step_put_error {e : Fault} (he : Structure.ofFields (os.map (·.bind m.field?)) = .error e)
    (pv : Text) : m.step (.put pv os) = (m, .failed e) := by
  unfold step
  simp only [he]

theorem puts?_put (hop : op.publishes? = some (pv, os))
    (hs : Structure.ofFields (os.map (·.bind m.field?)) = .ok s) : m.puts? op = some (pv, s) := by
  unfold puts?
  rw [hop]
  exact congrArg (fun r => r.toOption.map (pv, ·)) hs

/-- The channel of values is put the same structure. -/
theorem channel_put (hop : op.publishes? = some (pv, os))
    (hs : Structure.ofFields (os.map (·.bind m.field?)) = .ok s) :
    (m.step op).1.channel = m.channel.put pv s := by
  rw [step_put_ok hop hs]
  refine congrArg Channel.mk ((publish_map m.structureOf m.published pv os.reduceOption).trans ?_)
  rw [structureOf_reduceOption hs]
  rfl

theorem Sound.put (h : m.Sound) (hop : op.publishes? = some (pv, os))
    (hs : Structure.ofFields (os.map (·.bind m.field?)) = .ok s) : (m.step op).1.Sound := by
  rw [step_put_ok hop hs]
  refine ⟨h.fits, fun a ha => ⟨(h.free a ha).there, (h.free a ha).unseen⟩, fun p hp o ho => ?_⟩
  rcases List.mem_cons.mp hp with rfl | hp
  · have hmem : m.field? o ∈ s.fields.map some := by
      rw [← (Structure.ofFields_eq_ok.mp hs).1]
      exact List.mem_map_of_mem (f := (·.bind m.field?)) (List.reduceOption_mem_iff.mp ho)
    obtain ⟨f, -, hf⟩ := List.mem_map.mp hmem
    obtain ⟨x, hx, -⟩ := Option.map_eq_some_iff.mp hf.symm
    exact (List.getElem?_eq_some_iff.mp hx).1
  · exact h.made p (List.mem_of_mem_filter hp) o ho

end Put

/-! ### Operations -/

/-- What an operation that puts nothing leaves behind: fields change where they are set. -/
structure After (m : Memory) (op : Op) (m' : Memory) : Prop where
  sound : m'.Sound
  published : m'.published = m.published
  there : m.objects.length ≤ m'.objects.length
  field? : ∀ o < m.objects.length, m'.field? o = (m.field? o).map (m.altered o op)

theorem Kept.after {op : Op} (h : m.Kept m') (hid : ∀ o, m.altered o op = id) : m.After op m' where
  sound := h.sound
  published := h.published
  there := h.there
  field? o ho := by rw [h.field? o ho, hid, Option.map_id, id]

/-- **What an operation does**: it puts a structure, or only sets fields. -/
theorem Sound.step_cases (h : m.Sound) (op : Op) :
    (∃ pv os s, op.publishes? = some (pv, os) ∧ Structure.ofFields (os.map (·.bind m.field?)) = .ok s) ∨
      m.puts? op = none ∧ m.After op (m.step op).1 := by
  cases op with
  | single name element v =>
    refine .inr ⟨rfl, Kept.after ?_ fun _ => rfl⟩
    exact h.kept_add (.scalar name element v)
  | row name element s =>
    refine .inr ⟨rfl, Kept.after ?_ fun _ => rfl⟩
    exact h.kept_add (.array name element (m.shown (m.slice s)))
  | make name kind type =>
    refine .inr ⟨rfl, Kept.after ?_ fun _ => rfl⟩
    unfold step
    simp only
    split
    · exact h.kept
    · exact h.kept_add _
  | put pv os =>
    cases hs : Structure.ofFields (os.map (·.bind m.field?)) with
    | ok s => exact .inl ⟨pv, os, s, rfl, hs⟩
    | error e =>
      refine .inr ⟨congrArg (fun r => r.toOption.map (pv, ·)) hs, Kept.after ?_ fun _ => rfl⟩
      rw [step_put_error hs]
      exact h.kept
  | blank pv => exact .inl ⟨pv, [], {}, rfl, rfl⟩
  | get ctx pv =>
    refine .inr ⟨rfl, Kept.after ?_ fun _ => rfl⟩
    unfold step
    simp only
    split <;> exact h.kept
  | set o v =>
    exact .inr ⟨rfl, h.set o v, rfl, Nat.le_of_eq (List.length_modify _ _ _).symm,
      fun o' _ => m.field?_set o v o'⟩
  | setRow o s =>
    exact .inr ⟨rfl, h.setRow o s, rfl, Nat.le_of_eq (List.length_modify _ _ _).symm,
      fun o' _ => h.field?_setRow o s o'⟩
  | scalar ctx pv name =>
    refine .inr ⟨rfl, Kept.after ?_ fun _ => rfl⟩
    unfold step
    simp only
    split
    · exact h.kept
    · split <;> exact h.kept
  | array ctx pv name into =>
    refine .inr ⟨rfl, Kept.after ?_ fun _ => rfl⟩
    unfold step
    simp only
    split
    · exact h.kept
    · split
      · exact h.kept
      · exact (h.copyInto into _).1
  | buffer xs spare =>
    refine .inr ⟨rfl, Kept.after (h.kept_hold_grow ⟨_, m.getElem?_grow _, ?_, ?_⟩) fun _ => rfl⟩
    · exact Nat.le_add_right _ _
    · exact Nat.le_of_eq (by rw [Nat.zero_add, List.length_append, List.length_replicate])
  | cut s start stop =>
    refine .inr ⟨rfl, Kept.after ?_ fun _ => rfl⟩
    unfold step
    simp only
    split
    · rename_i hbounds
      exact h.kept_cut hbounds.1 hbounds.2
    · exact h.kept
  | write s i x =>
    refine .inr ⟨rfl, Kept.after ?_ fun _ => rfl⟩
    unfold step
    simp only
    split
    · exact h.kept_write s _ x
    · exact h.kept

/-- **Memory stays sound.** -/
theorem Sound.step (h : m.Sound) (op : Op) : (m.step op).1.Sound := by
  rcases h.step_cases op with ⟨pv, os, s, hop, hs⟩ | ⟨-, hafter⟩
  · exact h.put hop hs
  · exact hafter.sound

end Memory

end DetectorStream.ProcessVariable
