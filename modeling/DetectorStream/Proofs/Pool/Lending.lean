import DetectorStream.Pool
import Mathlib.Algebra.Group.Nat.Defs
import Mathlib.Data.List.Induction
import Mathlib.Data.List.Nodup
import Mathlib.Data.List.Perm.Subperm

/-!
# What a pool lends

Callers put back, discard and change only objects that are out, and the store does what it likes.
Then an object is out or in the store, in one place at most, so it is never out twice. What is in
the store was put back, and nobody has had it since; what the store does not hand back is built. The
statistics are words and agree with the numbers for as long as those are words, too.

* `Event.Allowed`, `Lending.Proper`: callers keep to the objects that are out.
* `get_cases`: what a request can do, with the store hit or missed.
* `Lending.step_kept`, `Lending.Sound`: every object is in one place.
* `Lending.Returned`, `Lending.Proper.returned`: what is in the store came back.
* `Lending.Counted`, `Lending.Accurate`: what the statistics count, in words and in numbers.
* `Lending.Handed`: what is handed out.
* **`Lending.run_lends`**: all of this, after any events.
-/

namespace DetectorStream.Pool

variable {α : Type}

/-! ## One request -/

/-- The store hands back what stands at some place, or the pool has an object built. -/
theorem fetch_cases (p : Pool α) (found : Option Nat) :
    (∃ k i, p.stored[k]? = some i ∧
      p.fetch found = (i, { p with stored := p.stored.eraseIdx k })) ∨
    p.fetch found = p.build := by
  unfold fetch
  cases found with
  | none => exact .inr rfl
  | some k =>
    cases hk : p.stored[k]? with
    | none =>
      right
      simp only [Option.bind_some, hk, Option.map_none]
    | some i =>
      left
      refine ⟨k, i, hk, ?_⟩
      simp only [Option.bind_some, hk, Option.map_some]

/-- **What a request for an object does**: the object comes out of the store, which is a hit, or it
is built, which is a miss. -/
theorem get_cases (p : Pool α) (found : Option Nat) :
    (∃ k i, p.stored[k]? = some i ∧
      p.get found = (i, { p with
        stored := p.stored.eraseIdx k, hits := p.hits + 1, inUse := p.inUse + 1 })) ∨
    p.get found = (p.objects.length, { p with
      objects := p.objects ++ [p.maker.build p.objects.length]
      allocated := p.allocated + 1, misses := p.misses + 1, inUse := p.inUse + 1 }) := by
  unfold get
  rcases p.fetch_cases found with ⟨k, i, hk, hfetch⟩ | hfetch
  · left
    refine ⟨k, i, hk, ?_⟩
    rw [hfetch]
    simp only [if_true]
  · -- a counter that wraps is still another one after it was counted up
    have hmiss : p.build.2.misses ≠ p.misses := by
      unfold build
      grind
    right
    rw [hfetch]
    simp only [if_neg hmiss]
    rfl

/-- What an object holds once it was put back. -/
theorem put_contents (p : Pool α) (i : Nat) :
    (p.put i).objects[i]? = p.objects[i]?.map p.maker.cleaned :=
  List.getElem?_modify_eq ..

/-- Callers may put back, discard and change what is out. -/
def Event.Allowed (out : List Nat) : Event α → Prop
  | .put i | .discard i | .change i _ => i ∈ out
  | .get _ | .lose _ => True

instance (out : List Nat) : (e : Event α) → Decidable (e.Allowed out)
  | .put i | .discard i | .change i _ => inferInstanceAs (Decidable (i ∈ out))
  | .get _ | .lose _ => inferInstanceAs (Decidable True)

/-- The event is a request for an object. -/
def Event.isGet : Event α → Bool
  | .get _ => true
  | _ => false

namespace Lending

variable {m : Maker α} {l : Lending α} {e : Event α} {es part : List (Event α)} {i : Nat} {n : Nat}

/-! ## Where objects are -/

/-- The objects that are out or in the store. -/
def kept (l : Lending α) : List Nat := l.out ++ l.pool.stored

/-- **Where an event leaves the objects**: it moves or drops some of those that were out or in the
store, or it adds one that it has built. -/
theorem step_kept (hallowed : e.Allowed l.out) :
    ((l.step e).kept.Subperm l.kept ∧
      (l.step e).pool.objects.length = l.pool.objects.length) ∨
    ((l.step e).kept = l.pool.objects.length :: l.kept ∧
      (l.step e).pool.objects.length = l.pool.objects.length + 1) := by
  cases e with
  | get found =>
    rcases l.pool.get_cases found with ⟨k, i, hk, hget⟩ | hget
    · left
      obtain ⟨hlt, rfl⟩ := List.getElem?_eq_some_iff.mp hk
      simp only [step, hget, kept, and_true]
      refine List.Perm.subperm ?_
      exact List.perm_middle.symm.trans
        ((List.getElem_cons_eraseIdx_perm hlt).append_left l.out)
    · right
      simp only [step, hget, kept]
      exact ⟨rfl, List.length_append⟩
  | put i =>
    left
    refine ⟨List.Perm.subperm ?_, List.length_modify ..⟩
    exact List.perm_middle.trans ((List.perm_cons_erase hallowed).symm.append_right l.pool.stored)
  | discard i =>
    exact .inl ⟨(List.erase_sublist.append_right _).subperm, rfl⟩
  | lose k =>
    exact .inl ⟨((List.eraseIdx_sublist _ _).append_left _).subperm, rfl⟩
  | change i f =>
    exact .inl ⟨List.Subperm.refl _, List.length_modify ..⟩

/-- **Every object is in one place**, and was built. -/
structure Sound (l : Lending α) : Prop where
  apart : l.kept.Nodup
  built : ∀ i ∈ l.kept, i < l.pool.objects.length

theorem sound_new (m : Maker α) : (new m).Sound := ⟨List.nodup_nil, nofun⟩

theorem Sound.step (h : l.Sound) (hallowed : e.Allowed l.out) : (l.step e).Sound := by
  rcases step_kept hallowed with ⟨hkept, hlength⟩ | ⟨hkept, hlength⟩
  · refine ⟨?_, fun i hi => ?_⟩
    · obtain ⟨moved, hperm, hsublist⟩ := hkept
      exact hperm.nodup_iff.mp (h.apart.sublist hsublist)
    · rw [hlength]
      exact h.built i (hkept.subset hi)
  · refine ⟨?_, fun i hi => ?_⟩
    · rw [hkept]
      exact List.nodup_cons.mpr ⟨fun hmem => Nat.lt_irrefl _ (h.built _ hmem), h.apart⟩
    · rw [hkept, List.mem_cons] at hi
      rw [hlength]
      rcases hi with rfl | hi
      · exact Nat.lt_succ_self _
      · exact Nat.lt_succ_of_lt (h.built i hi)

/-- What is in the store is not out. -/
theorem Sound.not_out (h : l.Sound) (hi : i ∈ l.pool.stored) : i ∉ l.out :=
  fun hout => (List.nodup_append.mp h.apart).2.2 i hout i hi rfl

/-- An object that comes out of the store, or was built, is with nobody else. -/
theorem Sound.get_not_out (h : l.Sound) (found : Option Nat) : (l.pool.get found).1 ∉ l.out := by
  rcases l.pool.get_cases found with ⟨k, i, hk, hget⟩ | hget
  · rw [hget]
    exact h.not_out (List.mem_of_getElem? hk)
  · rw [hget]
    exact fun hout => Nat.lt_irrefl _ (h.built _ (List.mem_append_left _ hout))

/-- An object in the store keeps its contents unless it is only just put there. -/
theorem Sound.step_contents (h : l.Sound) (hallowed : e.Allowed l.out) (hi : i ∈ l.pool.stored) :
    (l.step e).pool.objects[i]? = l.pool.objects[i]? := by
  have hout : ∀ {j}, j ∈ l.out → j ≠ i := fun hj heq => h.not_out hi (heq ▸ hj)
  cases e with
  | get found =>
    rcases l.pool.get_cases found with ⟨k, j, -, hget⟩ | hget
    · simp only [Lending.step, hget]
    · simp only [Lending.step, hget]
      exact List.getElem?_append_left (h.built i (List.mem_append_right _ hi))
  | put j => exact List.getElem?_modify_ne _ _ (hout hallowed)
  | discard j => rfl
  | lose k => rfl
  | change j f => exact List.getElem?_modify_ne _ _ (hout hallowed)

/-- What is in the store after an event was there before, or was put there by it. -/
theorem mem_stored_step (hi : i ∈ (l.step e).pool.stored) : i ∈ l.pool.stored ∨ e = .put i := by
  cases e with
  | get found =>
    rcases l.pool.get_cases found with ⟨k, j, -, hget⟩ | hget
    · simp only [step, hget] at hi
      exact .inl (List.mem_of_mem_eraseIdx hi)
    · simp only [step, hget] at hi
      exact .inl hi
  | put j =>
    rcases List.mem_cons.mp hi with rfl | hi
    · exact .inr rfl
    · exact .inl hi
  | discard j => exact .inl hi
  | lose k => exact .inl (List.mem_of_mem_eraseIdx hi)
  | change j f => exact .inl hi

/-! ## Histories -/

/-- **Callers keep to the objects that are out**, whenever they put one back, discard or change
it. -/
def Proper (l : Lending α) : List (Event α) → Prop
  | [] => True
  | e :: es => e.Allowed l.out ∧ Proper (l.step e) es

instance decidableProper (l : Lending α) : (es : List (Event α)) → Decidable (l.Proper es)
  | [] => inferInstanceAs (Decidable True)
  | e :: es =>
    have := decidableProper (l.step e) es
    inferInstanceAs (Decidable (e.Allowed l.out ∧ (l.step e).Proper es))

theorem run_append (l : Lending α) (es fs : List (Event α)) :
    l.run (es ++ fs) = (l.run es).run fs :=
  List.foldl_append

theorem run_concat (l : Lending α) (es : List (Event α)) (e : Event α) :
    l.run (es ++ [e]) = (l.run es).step e :=
  run_append l es [e]

theorem proper_append {fs : List (Event α)} :
    l.Proper (es ++ fs) ↔ l.Proper es ∧ (l.run es).Proper fs := by
  induction es generalizing l with
  | nil => exact ⟨fun h => ⟨trivial, h⟩, And.right⟩
  | cons e es ih =>
    have hes : (l.step e).Proper (es ++ fs) ↔ _ := ih
    rw [List.cons_append, Proper, hes, ← and_assoc]
    rfl

theorem Sound.run (h : l.Sound) (hproper : l.Proper es) : (l.run es).Sound := by
  induction es generalizing l with
  | nil => exact h
  | cons e es ih => exact ih (h.step hproper.1) hproper.2

/-- Objects stay built. -/
theorem Proper.built_le (h : l.Proper es) :
    l.pool.objects.length ≤ (l.run es).pool.objects.length := by
  induction es generalizing l with
  | nil => exact Nat.le_refl _
  | cons e es ih =>
    refine Nat.le_trans ?_ (ih h.2)
    rcases step_kept h.1 with ⟨-, hlength⟩ | ⟨-, hlength⟩
    · exact Nat.le_of_eq hlength.symm
    · exact Nat.le_of_lt (Nat.lt_of_succ_le (Nat.le_of_eq hlength.symm))

/-- An object that is yet to be built was never out. -/
theorem Sound.not_out_before (h : l.Sound) (hproper : l.Proper es) (hpart : part <+: es) :
    (l.run es).pool.objects.length ∉ (l.run part).out := by
  obtain ⟨rest, rfl⟩ := hpart
  obtain ⟨hearlier, hlater⟩ := proper_append.mp hproper
  rw [run_append]
  intro hout
  have hbuilt := (h.run hearlier).built _ (List.mem_append_left _ hout)
  exact Nat.not_lt.mpr hlater.built_le hbuilt

/-! ## What comes back -/

/-- **Object `i` came back and holds `x`**: at some time it was put back by whoever had it, nobody
has had it since, and `x` is what the pool made of what it held at that time. -/
def Returned (m : Maker α) (es : List (Event α)) (i : Nat) (x : α) : Prop :=
  ∃ before since y, es = before ++ .put i :: since ∧
    i ∈ ((new m).run before).out ∧
    ((new m).run before).pool.objects[i]? = some y ∧
    (∀ part, part <+: since → i ∉ ((new m).run (before ++ .put i :: part)).out) ∧
    x = m.cleaned y

/-- What came back stays as it is while nobody gets it. -/
theorem Returned.concat {x : α} (h : Returned m es i x) (e : Event α)
    (hout : i ∉ ((new m).run (es ++ [e])).out) : Returned m (es ++ [e]) i x := by
  obtain ⟨before, since, y, rfl, hhad, hheld, hidle, hx⟩ := h
  have hes : before ++ Event.put i :: since ++ [e] = before ++ Event.put i :: (since ++ [e]) :=
    List.append_assoc ..
  refine ⟨before, since ++ [e], y, hes, hhad, hheld, fun part hpart => ?_, hx⟩
  rcases List.prefix_concat_iff.mp hpart with rfl | hpart
  · rw [← hes]
    exact hout
  · exact hidle part hpart

theorem maker_step (l : Lending α) (e : Event α) :
    (l.step e).pool.maker = l.pool.maker := by
  cases e with
  | get found =>
    rcases l.pool.get_cases found with ⟨k, i, -, hget⟩ | hget
    · simp only [step, hget]
    · simp only [step, hget]
  | _ => rfl

theorem maker_run (m : Maker α) (es : List (Event α)) : ((new m).run es).pool.maker = m := by
  induction es using List.reverseRecOn with
  | nil => rfl
  | append_singleton es e ih => rw [run_concat, maker_step, ih]

/-- **What is in the store came back.** -/
theorem Proper.returned (h : (new m).Proper es) (hi : i ∈ ((new m).run es).pool.stored) :
    ∃ x, ((new m).run es).pool.objects[i]? = some x ∧ Returned m es i x := by
  induction es using List.reverseRecOn with
  | nil => cases hi
  | append_singleton es e ih =>
    obtain ⟨hes, hallowed, -⟩ := proper_append.mp h
    have hsound := (sound_new m).run hes
    have hout := ((sound_new m).run h).not_out hi
    rw [run_concat] at hi ⊢
    by_cases hput : e = .put i
    · subst hput
      have hlt := hsound.built i (List.mem_append_left _ hallowed)
      have hheld := List.getElem?_eq_getElem hlt
      refine ⟨m.cleaned _, ?_, es, [], _, rfl, hallowed, hheld, fun part hpart => ?_, rfl⟩
      · simp only [step, put_contents, hheld, maker_run, Option.map_some]
      · rw [List.prefix_nil.mp hpart]
        exact hout
    · have hstored := (mem_stored_step hi).resolve_right hput
      obtain ⟨x, hx, hreturned⟩ := ih hes hstored
      refine ⟨x, ?_, hreturned.concat e hout⟩
      rw [hsound.step_contents hallowed hstored, hx]

/-! ## Statistics -/

/-- **What the statistics count**, after `n` requests: the objects that were built, the other
requests, and the objects that are out. -/
structure Counted (n : Nat) (l : Lending α) : Prop where
  built_le : l.pool.objects.length ≤ n
  out_le : l.out.length ≤ n
  allocated : l.pool.allocated = Int64.ofNat l.pool.objects.length
  misses : l.pool.misses = Int64.ofNat l.pool.objects.length
  hits : l.pool.hits = Int64.ofNat (n - l.pool.objects.length)
  inUse : l.pool.inUse = Int64.ofNat l.out.length

theorem counted_new (m : Maker α) : Counted 0 (new m) where
  built_le := Nat.le_refl _
  out_le := Nat.le_refl _
  allocated := rfl
  misses := rfl
  hits := rfl
  inUse := rfl

/-- An event that neither asks for an object nor has one built counts those that are out only. -/
theorem Counted.of_length {l' : Lending α} (h : Counted n l)
    (hbuilt : l'.pool.objects.length = l.pool.objects.length)
    (hstatistics : l'.pool.allocated = l.pool.allocated ∧ l'.pool.misses = l.pool.misses ∧
      l'.pool.hits = l.pool.hits)
    (hout : l'.out.length ≤ n) (hinUse : l'.pool.inUse = Int64.ofNat l'.out.length) :
    Counted n l' := by
  obtain ⟨hallocated, hmisses, hhits⟩ := hstatistics
  refine ⟨?_, hout, ?_, ?_, ?_, hinUse⟩
  · rw [hbuilt]
    exact h.built_le
  · rw [hbuilt, hallocated, h.allocated]
  · rw [hbuilt, hmisses, h.misses]
  · rw [hbuilt, hhits, h.hits]

/-- One object less is out. -/
theorem Counted.back (h : Counted n l) (hi : i ∈ l.out) :
    (l.out.erase i).length ≤ n ∧ l.pool.inUse - 1 = Int64.ofNat (l.out.erase i).length := by
  have hpos := List.length_pos_of_mem hi
  have hlength := List.length_erase_of_mem hi
  refine ⟨?_, ?_⟩
  · rw [hlength]
    exact Nat.le_trans (Nat.sub_le _ _) h.out_le
  · rw [hlength, h.inUse, Int64.ofNat_sub _ _ hpos]
    rfl

/-- One object more is out. -/
theorem Counted.forth (h : Counted n l) (i : Nat) :
    (i :: l.out).length ≤ n + 1 ∧ l.pool.inUse + 1 = Int64.ofNat (i :: l.out).length := by
  refine ⟨Nat.succ_le_succ h.out_le, ?_⟩
  rw [List.length_cons, Int64.ofNat_add, h.inUse]
  rfl

theorem Counted.step (h : Counted n l) (hallowed : e.Allowed l.out) :
    Counted (if e.isGet then n + 1 else n) (l.step e) := by
  cases e with
  | get found =>
    rcases l.pool.get_cases found with ⟨k, i, -, hget⟩ | hget
    · obtain ⟨hout, hinUse⟩ := h.forth i
      have hhits : n + 1 - l.pool.objects.length = n - l.pool.objects.length + 1 :=
        Nat.succ_sub h.built_le
      simp only [Lending.step, hget, Event.isGet, if_true]
      refine ⟨Nat.le_succ_of_le h.built_le, hout, h.allocated, h.misses, ?_, hinUse⟩
      rw [hhits, Int64.ofNat_add, h.hits]
      rfl
    · obtain ⟨hout, hinUse⟩ := h.forth l.pool.objects.length
      have hhits : n + 1 - (l.pool.objects.length + 1) = n - l.pool.objects.length :=
        Nat.succ_sub_succ ..
      simp only [Lending.step, hget, Event.isGet, if_true]
      refine ⟨?_, hout, ?_, ?_, ?_, hinUse⟩
      · rw [List.length_append]
        exact Nat.succ_le_succ h.built_le
      · rw [List.length_append, Int64.ofNat_add, h.allocated]
        rfl
      · rw [List.length_append, Int64.ofNat_add, h.misses]
        rfl
      · rw [List.length_append]
        exact h.hits.trans (congrArg Int64.ofNat hhits.symm)
  | put i =>
    obtain ⟨hout, hinUse⟩ := h.back hallowed
    exact h.of_length (List.length_modify ..) ⟨rfl, rfl, rfl⟩ hout hinUse
  | discard i =>
    obtain ⟨hout, hinUse⟩ := h.back hallowed
    exact h.of_length rfl ⟨rfl, rfl, rfl⟩ hout hinUse
  | lose k => exact h.of_length rfl ⟨rfl, rfl, rfl⟩ h.out_le h.inUse
  | change i f => exact h.of_length (List.length_modify ..) ⟨rfl, rfl, rfl⟩ h.out_le h.inUse

/-- **The statistics are right** after `n` requests: as words and, for fewer than `2 ^ 63` requests,
as numbers. -/
structure Accurate (n : Nat) (l : Lending α) : Prop where
  allocated : l.pool.allocated = l.pool.misses
  asked : l.pool.hits + l.pool.misses = Int64.ofNat n
  inUse : l.pool.inUse = Int64.ofNat l.out.length
  numbers : n < 2 ^ 63 →
    l.pool.hits.toInt + l.pool.misses.toInt = n ∧ l.pool.inUse.toInt = l.out.length

theorem Counted.accurate (h : Counted n l) : Accurate n l where
  allocated := h.allocated.trans h.misses.symm
  asked := by
    rw [h.hits, h.misses, ← Int64.ofNat_add, Nat.sub_add_cancel h.built_le]
  inUse := h.inUse
  numbers hn := by
    have hhits : n - l.pool.objects.length < 2 ^ 63 := Nat.lt_of_le_of_lt (Nat.sub_le _ _) hn
    have hmisses : l.pool.objects.length < 2 ^ 63 := Nat.lt_of_le_of_lt h.built_le hn
    have hout : l.out.length < 2 ^ 63 := Nat.lt_of_le_of_lt h.out_le hn
    have hle := h.built_le
    rw [h.hits, h.misses, h.inUse, Int64.toInt_ofNat_of_lt hhits, Int64.toInt_ofNat_of_lt hmisses,
      Int64.toInt_ofNat_of_lt hout]
    exact ⟨by omega, rfl⟩

/-- How many objects were asked for. -/
def gets (es : List (Event α)) : Nat := es.countP Event.isGet

theorem Counted.run (h : Counted n l) (hproper : l.Proper es) :
    Counted (n + gets es) (l.run es) := by
  induction es generalizing l n with
  | nil => exact h
  | cons e es ih =>
    have hrun := ih (h.step hproper.1) hproper.2
    have hgets : (if e.isGet then n + 1 else n) + gets es = n + gets (e :: es) := by
      unfold gets
      rw [List.countP_cons]
      split <;> omega
    rw [hgets] at hrun
    exact hrun

theorem proper_replicate_get (l : Lending α) (n : Nat) (found : Option Nat) :
    l.Proper (List.replicate n (.get found)) := by
  induction n generalizing l with
  | zero => trivial
  | succ n ih => exact ⟨trivial, ih _⟩

theorem length_out_replicate_get (l : Lending α) (n : Nat) (found : Option Nat) :
    (l.run (List.replicate n (.get found))).out.length = l.out.length + n := by
  induction n generalizing l with
  | zero => rfl
  | succ n ih =>
    rw [List.replicate_succ, run, List.foldl_cons, ← run, ih, step, List.length_cons]
    omega

/-- After `n` requests, the number of objects that are out is the word of `n`. -/
theorem inUse_replicate_get (m : Maker α) (n : Nat) :
    ((new m).run (List.replicate n (.get none))).pool.inUse = Int64.ofNat n := by
  rw [((counted_new m).run (proper_replicate_get _ n none)).inUse, length_out_replicate_get]
  exact congrArg Int64.ofNat (Nat.zero_add n)

/-! ## Orderly lending -/

/-- **What is handed out after the events `es`**: an object that nobody has, and that either was just
built, so that nobody ever had it, or came back. -/
structure Handed (m : Maker α) (es : List (Event α)) (r : Nat × Pool α) : Prop where
  alone : r.1 ∉ ((new m).run es).out
  clean :
    (r.2.objects[r.1]? = some (m.build r.1) ∧
      ∀ part, part <+: es → r.1 ∉ ((new m).run part).out) ∨
    ∃ x, r.2.objects[r.1]? = some x ∧ Returned m es r.1 x

theorem Proper.handed (h : (new m).Proper es) (found : Option Nat) :
    Handed m es (((new m).run es).pool.get found) := by
  have hsound := (sound_new m).run h
  refine ⟨hsound.get_not_out found, ?_⟩
  rcases ((new m).run es).pool.get_cases found with ⟨k, i, hk, hget⟩ | hget
  · right
    rw [hget]
    exact h.returned (List.mem_of_getElem? hk)
  · left
    rw [hget]
    refine ⟨?_, fun part hpart => (sound_new m).not_out_before h hpart⟩
    rw [maker_run]
    exact List.getElem?_concat_length

/-- **A pool lends orderly** after the events `es`: no object is out twice, what it hands out next is
handed out properly, whatever the store hands back, and its statistics are right. -/
structure Orderly (m : Maker α) (es : List (Event α)) : Prop where
  nodup : ((new m).run es).out.Nodup
  handed : ∀ found, Handed m es (((new m).run es).pool.get found)
  accurate : Accurate (gets es) ((new m).run es)

/-- **As long as callers keep to the objects that are out, a pool lends orderly**, whatever the
store does. -/
theorem run_lends (m : Maker α) (es : List (Event α)) (h : (new m).Proper es) : Orderly m es where
  nodup := (List.nodup_append.mp ((sound_new m).run h).apart).1
  handed := h.handed
  accurate := by
    have hcounted := (counted_new m).run h
    rw [Nat.zero_add] at hcounted
    exact hcounted.accurate

/-- Two objects are asked for. One of them is changed, put back and asked for again; the other is
discarded. What came back once more is lost by the store before it is asked for. -/
def refilled : List (Event Nat) :=
  [.get none, .get none, .change 1 (· + 5), .put 1, .get (some 0), .discard 0, .put 1, .lose 0,
    .get (some 0)]

theorem run_lends_refilled :
    (new ⟨fun _ => 0, some fun _ => 0⟩).Proper refilled ∧
      Orderly ⟨fun _ => 0, some fun _ => 0⟩ refilled :=
  ⟨by decide, run_lends _ _ (by decide)⟩

/-- What makes objects that are not reset. -/
def unreset : Maker Nat := ⟨fun _ => 0, none⟩

/-- **Without a reset, an object that was out before is handed out as it came back**; and with
`2 ^ 63` objects out, the statistics tell a negative number of them. -/
theorem lends_unreset :
    unreset.reset? = none ∧ (new unreset).Proper [.get none, .change 0 fun _ => 7, .put 0] ∧
      0 ∈ ((new unreset).run [.get none]).out ∧
      (((new unreset).run [.get none, .change 0 fun _ => 7, .put 0]).pool.get (some 0)).1 = 0 ∧
      (((new unreset).run [.get none, .change 0 fun _ => 7, .put 0]).pool.get (some 0)).2.objects =
        [7] ∧
      ((new unreset).run (List.replicate (2 ^ 63) (.get none))).pool.inUse.toInt < 0 := by
  refine ⟨rfl, by decide, by decide, by decide, by decide, ?_⟩
  rw [inUse_replicate_get]
  decide

end Lending

end DetectorStream.Pool
