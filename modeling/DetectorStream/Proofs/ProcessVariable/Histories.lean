import DetectorStream.Proofs.ProcessVariable.Memory
import Mathlib.Data.List.Find

/-!
# Histories of process variables

A history is what has been done, each operation with the memory that it found. Two kinds of operations
write to a place, which is a variable and the name of a field. A put writes to all places of its
variable: the fields of the structure before it are gone. A set writes to the places where its field
stands, which are places of different variables that were put the same field. Nothing else writes, so
that a place tells what was written to it last.

* `Memory.history`, `Memory.written`: what has been done, and what an operation writes at a place.
* `Memory.Sound.told_step`: what a place tells after one operation.
* **`Memory.Sound.told_run`**: after any operations, a place tells what was written to it last.
* `Memory.Sound.told_set`, `Memory.Sound.told_set_eq_update`: a set writes where its field stands.
* `Memory.step_scalar`, `Memory.Sound.step_array`: values are read as the channel of values reads them,
  and a row does not depend on the slice that it is read into.
* **`Memory.run_serves`**: all of this, in every memory that operations lead to.
* `Memory.run_shares_fields`: a set that is read for another variable, and fields that are refused.
-/

namespace DetectorStream.ProcessVariable

/-- The operation sets this field. -/
def Op.sets (o : Nat) : Op → Bool
  | .set o' _ => o' == o
  | .setRow o' _ => o' == o
  | _ => false

/-- An operation sets one field at most. -/
theorem Op.eq_of_sets {op : Op} {o o' : Nat} (h : op.sets o = true) (h' : op.sets o' = true) :
    o' = o := by
  cases op with
  | set o'' v => exact (beq_iff_eq.mp h').symm.trans (beq_iff_eq.mp h)
  | setRow o'' s => exact (beq_iff_eq.mp h').symm.trans (beq_iff_eq.mp h)
  | _ => cases h

/-- The operation puts this field for a variable. -/
def Op.Puts (pv : Text) (o : Nat) (op : Op) : Prop :=
  ∃ os, op.publishes? = some (pv, os) ∧ some o ∈ os

namespace Memory

variable {m m' : Memory} {op : Op} {ops : List Op} {o : Nat} {pv pv' name name' : Text}

/-- What is done, each operation with the memory that it finds. -/
def history : Memory → List Op → List (Memory × Op)
  | _, [] => []
  | m, op :: ops => (m, op) :: history (m.step op).1 ops

/-- What an operation writes at a place, if it writes there: the field of the structure that it puts, if
there is one, or the field that stands there, as it is set. -/
def written (m : Memory) (pv name : Text) (op : Op) : Option (Option Field) :=
  match m.puts? op with
  | some (pv', s) => if pv = pv' then some (s.field? name) else none
  | none =>
    match m.standing pv name with
    | some o => if op.sets o then some ((m.field? o).map (m.altered o op)) else none
    | none => none

/-! ## One operation -/

theorem altered_eq_id (h : op.sets o = false) : m.altered o op = id := by
  cases op with
  | set o' v => exact if_neg (beq_eq_false_iff_ne.mp h)
  | setRow o' s => exact if_neg (beq_eq_false_iff_ne.mp h)
  | _ => rfl

theorem mem_of_lookup {α : Type} {published : List (Text × α)} {x : α}
    (h : published.lookup pv = some x) : ∃ p ∈ published, p.2 = x := by
  obtain ⟨l₁, l₂, rfl, -⟩ := List.lookup_eq_some_iff.mp h
  exact ⟨(pv, x), List.mem_append_right _ List.mem_cons_self, rfl⟩

/-- The same field stands at a place, unless a structure is put. -/
theorem After.standing (hafter : m.After op m') (h : m.Sound) (pv name : Text) :
    m'.standing pv name = m.standing pv name := by
  unfold Memory.standing
  rw [hafter.published]
  cases hos : m.published.lookup pv with
  | none => rfl
  | some os =>
    obtain ⟨p, hp, rfl⟩ := mem_of_lookup hos
    refine List.find?_congr fun o ho => ?_
    rw [hafter.field? o (h.made p hp o ho), Option.any_map]
    simp only [name_altered]

theorem lt_of_standing (h : m.Sound) (hstands : m.standing pv name = some o) :
    o < m.objects.length := by
  obtain ⟨os, hos, hfind⟩ := Option.bind_eq_some_iff.mp hstands
  obtain ⟨p, hp, rfl⟩ := mem_of_lookup hos
  exact h.made p hp o (List.mem_of_find?_eq_some hfind)

/-- **What a place tells after an operation** is what was written there, if anything was. -/
theorem Sound.told_step (h : m.Sound) (op : Op) (pv name : Text) :
    (m.step op).1.channel.told pv name =
      (m.written pv name op).getD (m.channel.told pv name) := by
  unfold written
  rcases h.step_cases op with ⟨pv', os, s, hop, hs⟩ | ⟨hputs, hafter⟩
  · rw [puts?_put hop hs, channel_put hop hs, Channel.told_put]
    simp only
    split <;> rfl
  · rw [hputs, told_eq, told_eq, hafter.standing h]
    simp only
    cases hstands : m.standing pv name with
    | none => rfl
    | some o =>
      simp only [Option.bind_some, hafter.field? o (lt_of_standing h hstands)]
      cases hsets : op.sets o with
      | true => rfl
      | false =>
        rw [altered_eq_id hsets, Option.map_id]
        rfl

/-- An operation that neither puts nor sets writes nowhere. -/
theorem Sound.told_others (h : m.Sound) (hputs : m.puts? op = none)
    (hsets : ∀ o, op.sets o = false) : (m.step op).1.channel.told = m.channel.told := by
  funext pv name
  rw [h.told_step]
  unfold written
  rw [hputs]
  cases m.standing pv name with
  | none => rfl
  | some o =>
    simp only [hsets o]
    rfl

/-- A variable is known once a structure is put for it. -/
theorem Sound.known_step (h : m.Sound) (op : Op) (pv : Text) :
    ((m.step op).1.channel.published.lookup pv).isSome = true ↔
      (m.channel.published.lookup pv).isSome = true ∨ ∃ s, m.puts? op = some (pv, s) := by
  rcases h.step_cases op with ⟨pv', os, s, hop, hs⟩ | ⟨hputs, hafter⟩
  · have hpublished : (m.channel.put pv' s).published = publish m.channel.published pv' s := rfl
    rw [puts?_put hop hs, channel_put hop hs, hpublished, lookup_publish]
    by_cases heq : pv = pv'
    · rw [if_pos heq, heq]
      exact ⟨fun _ => .inr ⟨s, rfl⟩, fun _ => rfl⟩
    · rw [if_neg heq]
      refine ⟨.inl, ?_⟩
      rintro (hknown | ⟨t, ht⟩)
      · exact hknown
      · cases ht
        exact absurd rfl heq
  · rw [hputs, lookup_channel, lookup_channel, hafter.published, Option.isSome_map, Option.isSome_map]
    refine ⟨.inl, ?_⟩
    rintro (hknown | ⟨t, ht⟩)
    · exact hknown
    · cases ht

/-! ### Sets -/

theorem puts?_of_sets (h : op.sets o = true) : m.puts? op = none := by
  cases op <;> first | rfl | cases h

/-- **A set writes to the places where its field stands**, and to no other. -/
theorem Sound.told_set (h : m.Sound) (hsets : op.sets o = true) (pv name : Text) :
    (m.step op).1.channel.told pv name =
      if m.standing pv name = some o then (m.channel.told pv name).map (m.altered o op)
      else m.channel.told pv name := by
  rw [h.told_step]
  unfold written
  rw [puts?_of_sets hsets, told_eq]
  cases hstands : m.standing pv name with
  | none => rfl
  | some o' =>
    simp only
    by_cases heq : o' = o
    · rw [heq, if_pos rfl, if_pos hsets]
      rfl
    · have hother : op.sets o' = false :=
        Bool.eq_false_iff.mpr fun h => heq (Op.eq_of_sets hsets h)
      rw [if_neg (fun h => heq (Option.some.inj h)), hother]
      rfl

/-- A field stands at places of one name. -/
theorem name_eq_of_standing (h : m.standing pv name = some o) (h' : m.standing pv' name' = some o) :
    name' = name := by
  obtain ⟨f, hf, rfl⟩ := name_of_standing h
  obtain ⟨f', hf', rfl⟩ := name_of_standing h'
  cases hf.symm.trans hf'
  rfl

/-- Where a field stands at one place only, a set is an update of the channel. -/
theorem Sound.told_set_eq_update (h : m.Sound) (hsets : op.sets o = true)
    (hstands : m.standing pv name = some o)
    (honly : ∀ pv', pv' ≠ pv → m.standing pv' name ≠ some o) :
    (m.step op).1.channel.told = (m.channel.update pv name (m.altered o op)).told := by
  funext pv' name'
  rw [h.told_set hsets, Channel.told_update _ _ _ (m.name_altered o op)]
  by_cases hplace : pv' = pv ∧ name' = name
  · rw [hplace.1, hplace.2, if_pos hstands, if_pos ⟨rfl, rfl⟩]
  · rw [if_neg hplace, if_neg]
    intro hother
    have hname := name_eq_of_standing hstands hother
    exact honly pv' (fun hpv => hplace ⟨hpv, hname⟩) (hname ▸ hother)

/-! ### Puts -/

/-- Fields that are all there, with different names, are published, and all that stood before is gone. -/
theorem told_put {os : List (Option Nat)} {fields : List Field}
    (hfields : os.map (·.bind m.field?) = fields.map some)
    (hnames : (fields.map Field.name).Nodup) (pv : Text) :
    (m.step (.put pv os)).2 = .done ∧ ∀ pv' name, (m.step (.put pv os)).1.channel.told pv' name =
      if pv' = pv then (Structure.mk fields).field? name else m.channel.told pv' name := by
  have hs : Structure.ofFields (os.map (·.bind m.field?)) = .ok ⟨fields⟩ :=
    Structure.ofFields_eq_ok.mpr ⟨hfields, hnames⟩
  refine ⟨by rw [step_put_ok rfl hs], fun pv' name => ?_⟩
  rw [channel_put rfl hs, Channel.told_put]

/-- A field that is not there, or two of the same name, and nothing happens. -/
theorem step_put_refused {os : List (Option Nat)} (h : none ∈ os.map (·.bind m.field?) ∨
      ¬ ((os.map (·.bind m.field?)).reduceOption.map Field.name).Nodup) (pv : Text) :
    ∃ f, f.kind = .configuration ∧ m.step (.put pv os) = (m, .failed f) := by
  cases hs : Structure.ofFields (os.map (·.bind m.field?)) with
  | error f => exact ⟨f, Structure.ofFields_eq_error hs, step_put_error hs pv⟩
  | ok s =>
    obtain ⟨hfields, hnames⟩ := Structure.ofFields_eq_ok.mp hs
    rw [hfields] at h
    rcases h with hnone | hdup
    · obtain ⟨f, -, hf⟩ := List.mem_map.mp hnone
      cases hf
    · rw [List.reduceOption, List.filterMap_map] at hdup
      exact absurd hnames ((List.filterMap_some (l := s.fields)) ▸ hdup)

/-- What comes of fields that make no structure is published as one without fields. -/
theorem told_blank (m : Memory) (pv : Text) :
    (m.step (.blank pv)).2 = .done ∧ ∀ pv' name, (m.step (.blank pv)).1.channel.told pv' name =
      if pv' = pv then none else m.channel.told pv' name := by
  have hop : (Op.blank pv).publishes? = some (pv, []) := rfl
  refine ⟨rfl, fun pv' name => ?_⟩
  rw [channel_put hop rfl, Channel.told_put]
  rfl

/-! ### Reads -/

/-- A value is read as the channel of values reads it. -/
theorem step_scalar (m : Memory) (ctx : Context) (pv name : Text) :
    m.step (.scalar ctx pv name) = (m, match m.channel.scalar ctx pv name with
      | .ok v => .value v
      | .error f => .failed f) := by
  rw [Channel.scalar_eq, ← lookup_eq]
  simp only [step]
  rcases m.lookup ctx pv name with f | (g | g) <;> rfl

/-- **A row is read as the channel of values reads it**, whatever the slice that it is read into; a
slice that no row is read into is left alone. -/
theorem Sound.step_array (h : m.Sound) (ctx : Context) (pv name : Text) (into : Nat) :
    match m.channel.array ctx pv name with
    | .ok vs => ∃ m' w, m.step (.array ctx pv name into) = (m', .slice w) ∧ m'.shown w = vs
    | .error f => m.step (.array ctx pv name into) = (m, .refused (m.slice into) f) := by
  rw [Channel.array_eq, ← lookup_eq]
  simp only [Memory.step]
  rcases m.lookup ctx pv name with f | (g | ⟨name', element, vs⟩)
  · rfl
  · rfl
  · exact ⟨_, _, rfl, (h.copyInto into vs).2⟩

/-! ### Fields that are made and fetched -/

/-- A new field is what it was made from; a row is what the slice showed at that time. -/
theorem step_single (m : Memory) (name : Text) (element : Element) (v : Int64) :
    ∃ m' o, m.step (.single name element v) = (m', .made o) ∧
      m'.field? o = some (.scalar name element v) :=
  ⟨_, _, rfl, field?_add m _⟩

theorem step_row (m : Memory) (name : Text) (element : Element) (s : Nat) :
    ∃ m' o, m.step (.row name element s) = (m', .made o) ∧
      m'.field? o = some (.array name element (m.shown (m.slice s))) :=
  ⟨_, _, rfl, field?_add m _⟩

theorem step_make (m : Memory) (name : Text) (kind type : Int) :
    match Field.make name kind type with
    | .ok f => ∃ m' o, m.step (.make name kind type) = (m', .made o) ∧ m'.field? o = some f
    | .error f => m.step (.make name kind type) = (m, .failed f) := by
  simp only [step]
  cases Field.make name kind type with
  | error f => rfl
  | ok f => exact ⟨_, _, rfl, field?_add m f⟩

/-- The fields that are fetched make up the structure that the channel of values serves. -/
theorem step_get (m : Memory) (ctx : Context) (pv : Text) :
    match m.channel.get ctx pv with
    | .ok s => ∃ os, m.step (.get ctx pv) = (m, .fields os) ∧ m.structureOf os = s
    | .error f => m.step (.get ctx pv) = (m, .failed f) := by
  simp only [step, Channel.get, serve]
  cases ctx.fault? with
  | some why => rfl
  | none =>
    simp only [lookup_channel]
    cases m.published.lookup pv with
    | none => rfl
    | some os => exact ⟨os, rfl, rfl⟩

/-! ## Many operations -/

theorem run_cons (m : Memory) (op : Op) (ops : List Op) :
    m.run (op :: ops) = (m.step op).1.run ops := rfl

theorem history_cons (m : Memory) (op : Op) (ops : List Op) :
    m.history (op :: ops) = (m, op) :: (m.step op).1.history ops := rfl

theorem Sound.run (h : m.Sound) (ops : List Op) : (m.run ops).Sound := by
  induction ops generalizing m with
  | nil => exact h
  | cons op ops ih => exact ih (h.step op)

/-- What was written at a place, in order. -/
def writes (past : List (Memory × Op)) (pv name : Text) : List (Option Field) :=
  past.filterMap fun t => t.1.written pv name t.2

theorem writes_cons (m : Memory) (op : Op) (past : List (Memory × Op)) (pv name : Text) :
    writes ((m, op) :: past) pv name =
      (m.written pv name op).toList ++ writes past pv name := by
  unfold writes
  rw [List.filterMap_cons]
  cases m.written pv name op <;> rfl

/-- **After any operations, a place tells what was written to it last**, or what it told before. -/
theorem Sound.told_run (h : m.Sound) (ops : List Op) (pv name : Text) :
    (m.run ops).channel.told pv name =
      (writes (m.history ops) pv name).getLast?.getD (m.channel.told pv name) := by
  induction ops generalizing m with
  | nil => rfl
  | cons op ops ih =>
    rw [run_cons, ih (h.step op), h.told_step, history_cons, writes_cons]
    cases m.written pv name op with
    | none => rfl
    | some x => exact congrArg (Option.getD · _) List.getLast?_cons.symm

/-- The variables that are known are those that a structure was put for. -/
theorem Sound.known_run (h : m.Sound) (ops : List Op) (pv : Text) :
    ((m.run ops).channel.published.lookup pv).isSome = true ↔
      (m.channel.published.lookup pv).isSome = true ∨
        ∃ t ∈ m.history ops, ∃ s, t.1.puts? t.2 = some (pv, s) := by
  induction ops generalizing m with
  | nil =>
    refine ⟨.inl, ?_⟩
    rintro (hknown | ⟨t, ht, -⟩)
    · exact hknown
    · exact absurd ht List.not_mem_nil
  | cons op ops ih =>
    rw [run_cons, ih (h.step op), h.known_step]
    simp only [history_cons, List.exists_mem_cons_iff]
    exact or_assoc

/-- The field is among those published for the variable. -/
def Publishes (m : Memory) (pv : Text) (o : Nat) : Prop :=
  ∃ os, m.published.lookup pv = some os ∧ o ∈ os

theorem publishes_of_standing (h : m.standing pv name = some o) : m.Publishes pv o := by
  obtain ⟨os, hos, hfind⟩ := Option.bind_eq_some_iff.mp h
  exact ⟨os, hos, List.mem_of_find?_eq_some hfind⟩

theorem Sound.publishes_step (h : m.Sound) (hnow : (m.step op).1.Publishes pv o) :
    m.Publishes pv o ∨ op.Puts pv o := by
  rcases h.step_cases op with ⟨pv', os, s, hop, hs⟩ | ⟨-, hafter⟩
  · rw [step_put_ok hop hs] at hnow
    obtain ⟨os', hos', ho⟩ := hnow
    rw [lookup_publish] at hos'
    by_cases heq : pv = pv'
    · rw [if_pos heq] at hos'
      cases hos'
      exact .inr ⟨os, by rw [heq, hop], List.reduceOption_mem_iff.mp ho⟩
    · rw [if_neg heq] at hos'
      exact .inl ⟨os', hos', ho⟩
  · unfold Publishes at hnow
    rw [hafter.published] at hnow
    exact .inl hnow

/-- A field stands at places of those variables only that it was put for. -/
theorem Sound.publishes_run (h : m.Sound) (hnow : (m.run ops).Publishes pv o) :
    m.Publishes pv o ∨ ∃ t ∈ m.history ops, t.2.Puts pv o := by
  induction ops generalizing m with
  | nil => exact .inl hnow
  | cons op ops ih =>
    simp only [history_cons, List.exists_mem_cons_iff]
    rcases ih (h.step op) hnow with hthen | hlater
    · rcases h.publishes_step hthen with hbefore | hputs
      · exact .inl hbefore
      · exact .inr (.inl hputs)
    · exact .inr (.inr hlater)

/-- From empty memory on, a field stands where it was put. -/
theorem put_of_standing_run (h : (run {} ops).standing pv name = some o) :
    ∃ t ∈ history {} ops, t.2.Puts pv o := by
  rcases sound_empty.publishes_run (publishes_of_standing h) with ⟨os, hos, -⟩ | hput
  · cases hos
  · exact hput

/-! ## The laws of process variables -/

/-- **What a memory serves after a history.** A place tells what was written to it last, and a variable
is known once a structure was put for it. A put replaces all places of its variable and no others, or is
refused and changes nothing; what comes of fields that make no structure may be put nevertheless, and
leaves a variable without fields. A set changes the places where its field stands, which all have one
name and are places of variables that it was put for; for a field that was put for one variable only, it
is an update of the channel of values. Nothing else changes a place. Values are read as the channel of
values reads them. -/
structure Serves (past : List (Memory × Op)) (m : Memory) : Prop where
  single name element v : ∃ m' o, m.step (.single name element v) = (m', .made o) ∧
    m'.field? o = some (.scalar name element v)
  row name element s : ∃ m' o, m.step (.row name element s) = (m', .made o) ∧
    m'.field? o = some (.array name element (m.shown (m.slice s)))
  make name kind type : match Field.make name kind type with
    | .ok f => ∃ m' o, m.step (.make name kind type) = (m', .made o) ∧ m'.field? o = some f
    | .error f => m.step (.make name kind type) = (m, .failed f)
  last pv name : m.channel.told pv name = (writes past pv name).getLast?.join
  known pv : (m.channel.published.lookup pv).isSome = true ↔
    ∃ t ∈ past, ∃ s, t.1.puts? t.2 = some (pv, s)
  put pv os fields : os.map (·.bind m.field?) = fields.map some → (fields.map Field.name).Nodup →
    (m.step (.put pv os)).2 = .done ∧ ∀ pv' name, (m.step (.put pv os)).1.channel.told pv' name =
      if pv' = pv then (Structure.mk fields).field? name else m.channel.told pv' name
  refused pv os : none ∈ os.map (·.bind m.field?) ∨
      ¬ ((os.map (·.bind m.field?)).reduceOption.map Field.name).Nodup →
    ∃ f, f.kind = .configuration ∧ m.step (.put pv os) = (m, .failed f)
  blank pv : (m.step (.blank pv)).2 = .done ∧
    ∀ pv' name, (m.step (.blank pv)).1.channel.told pv' name =
      if pv' = pv then none else m.channel.told pv' name
  set op o pv name : op.sets o = true → (m.step op).1.channel.told pv name =
    if m.standing pv name = some o then (m.channel.told pv name).map (m.altered o op)
    else m.channel.told pv name
  stands o pv name : m.standing pv name = some o → (∃ t ∈ past, t.2.Puts pv o) ∧
    ∀ pv' name', m.standing pv' name' = some o → name' = name
  update op o pv name : op.sets o = true → m.standing pv name = some o →
    (∀ t ∈ past, ∀ pv', t.2.Puts pv' o → pv' = pv) →
    (m.step op).1.channel.told = (m.channel.update pv name (m.altered o op)).told
  others op : m.puts? op = none → (∀ o, op.sets o = false) →
    (m.step op).1.channel.told = m.channel.told
  get ctx pv : match m.channel.get ctx pv with
    | .ok s => ∃ os, m.step (.get ctx pv) = (m, .fields os) ∧ m.structureOf os = s
    | .error f => m.step (.get ctx pv) = (m, .failed f)
  scalar ctx pv name : m.channel.Read ctx pv name Field.single? (m.channel.scalar ctx pv name) ∧
    m.step (.scalar ctx pv name) = (m, match m.channel.scalar ctx pv name with
      | .ok v => .value v
      | .error f => .failed f)
  array ctx pv name into : m.channel.Read ctx pv name Field.row? (m.channel.array ctx pv name) ∧
    match m.channel.array ctx pv name with
    | .ok vs => ∃ m' w, m.step (.array ctx pv name into) = (m', .slice w) ∧ m'.shown w = vs
    | .error f => m.step (.array ctx pv name into) = (m, .refused (m.slice into) f)

/-- **Every memory that operations lead to serves process variables by these laws.** -/
theorem run_serves (ops : List Op) : Serves (history {} ops) (run {} ops) where
  single name element v := step_single _ name element v
  row name element s := step_row _ name element s
  make name kind type := step_make _ name kind type
  last pv name := by
    rw [sound_empty.told_run]
    cases (writes (history {} ops) pv name).getLast? <;> rfl
  known pv := (sound_empty.known_run ops pv).trans (or_iff_right Bool.false_ne_true)
  put pv os fields hfields hnames := told_put hfields hnames pv
  refused pv os h := step_put_refused h pv
  blank pv := told_blank _ pv
  set op o pv name hsets := (sound_empty.run ops).told_set hsets pv name
  stands o pv name hstands := ⟨put_of_standing_run hstands, fun _ _ => name_eq_of_standing hstands⟩
  update op o pv name hsets hstands honly := by
    refine (sound_empty.run ops).told_set_eq_update hsets hstands fun pv' hpv hstands' => hpv ?_
    obtain ⟨t, ht, hput⟩ := put_of_standing_run hstands'
    exact honly t ht pv' hput
  others op hputs hsets := (sound_empty.run ops).told_others hputs hsets
  get ctx pv := step_get _ ctx pv
  scalar ctx pv name := ⟨Channel.scalar_read _ ctx pv name, step_scalar _ ctx pv name⟩
  array ctx pv name into :=
    ⟨Channel.array_read _ ctx pv name, (sound_empty.run ops).step_array ctx pv name into⟩

/-- **What is set for one variable may be read for another, and fields that are refused may take those
of a variable away.** A field that was put for two variables is one field. Fields that are refused make
no structure, and to put that all the same leaves the variable without fields. -/
theorem run_shares_fields :
    (¬ ∀ (ops : List Op) (o : Nat) (v : Int64) (pv pv' name : Text),
      (run {} ops).standing pv name = some o → pv' ≠ pv →
      (run {} (ops ++ [.set o v])).channel.told pv' name = (run {} ops).channel.told pv' name) ∧
    ¬ ∀ (ops : List Op) (pv name : Text) (os : List (Option Nat)),
      ¬ ((os.map (·.bind (run {} ops).field?)).reduceOption.map Field.name).Nodup →
      (run {} (ops ++ [.put pv os, .blank pv])).channel.told pv name =
        (run {} ops).channel.told pv name := by
  constructor
  · intro h
    have hshared := h [.single "x" ⟨3⟩ 1, .put "a" [some 0], .put "b" [some 0]] 0 2 "a" "b" "x"
      (by decide) (by decide)
    revert hshared
    decide
  · intro h
    have hrefused := h [.single "x" ⟨3⟩ 1, .put "a" [some 0]] "a" "x" [some 0, some 0] (by decide)
    revert hrefused
    decide

end Memory

end DetectorStream.ProcessVariable
