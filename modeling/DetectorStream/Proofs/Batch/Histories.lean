import DetectorStream.Proofs.Batch.Memory

/-!
# What becomes of a batch

Whatever is done with any number of batches, in any order and with some of it failing, each batch
keeps to itself: it has the length it was made with until it is released and none from then on, and
each of its events is the last one that was set there, or the one it was made with.

* `Batch.Op.effect`, `Batch.lastSet`: what an operation does to one batch, and the last event that a
  list of operations has set at a place.
* `Batch.Made`: what an operation makes a batch of.
* `Batch.Memory.Sound.batch_step`, `Batch.Memory.Sound.batch_run`: the other batches do not count.
* `Batch.slice_eq`: a range is cut out exactly if it is one in exact numbers.
* `Batch.Lives`, `Batch.Memory.Orderly`: what holds of a batch after it was made, and of batches in
  memory.
* **`Batch.Memory.run_orderly`**: it holds of all batches, whatever has been done before.
-/

namespace DetectorStream.Batch

variable {es : Array Event} {x y : Batch} {i j offset length : Int64} {e : Event} {b c : Nat}

/-! ## Events of a batch as a value -/

/-- Of a batch that has been released there is no event to be replaced. -/
theorem set_eq (x : Batch) (i : Int64) (e : Event) :
    x.set i e = if 0 ≤ i.toInt ∧ i.toInt < x.size then
      some (live (x.events.setIfInBounds i.toInt.toNat e)) else none := by
  cases x with
  | live es => rfl
  | released =>
    refine (if_neg ?_).symm
    show ¬ (0 ≤ i.toInt ∧ i.toInt < 0)
    omega

theorem event_eq_none_iff : x.event i = none ↔ ¬ (0 ≤ i.toInt ∧ i.toInt < x.size) := by
  unfold Batch.event size
  split_ifs with hi
  · rw [Array.getElem?_eq_none_iff]
    omega
  · exact iff_of_true rfl fun h => hi h.1

/-- There is an event to be replaced exactly if there is one to be read. -/
theorem set_eq_none_iff : x.set i e = none ↔ x.event i = none := by
  rw [event_eq_none_iff, set_eq]
  split_ifs with hi
  · exact iff_of_false nofun fun h => h hi
  · exact iff_of_true rfl hi

theorem exists_set_iff : (∃ y, x.set i e = some y) ↔ 0 ≤ i.toInt ∧ i.toInt < x.size := by
  rw [← Option.isSome_iff_exists, ← Option.ne_none_iff_isSome, ne_eq, set_eq_none_iff,
    event_eq_none_iff, Decidable.not_not]

/-- **Only the event that is set changes.** -/
theorem event_of_set (h : x.set i e = some y) (j : Int64) :
    y.event j = if j = i then some e else x.event j := by
  rw [set_eq] at h
  split_ifs at h with hi
  obtain rfl := (Option.some.inj h).symm
  unfold Batch.event size at *
  show (if 0 ≤ j.toInt then (x.events.setIfInBounds i.toInt.toNat e)[j.toInt.toNat]? else none) = _
  rw [Array.getElem?_setIfInBounds]
  by_cases hji : j = i
  · subst hji
    rw [if_pos hi.1, if_pos rfl, if_pos (by omega), if_pos rfl]
  · rw [if_neg hji]
    split_ifs with hj heq
    · exact absurd (Int64.toInt_inj.mp (by omega)) hji
    · exact absurd (Int64.toInt_inj.mp (by omega)) hji
    · rfl
    · rfl

theorem size_of_set (h : x.set i e = some y) :
    x.isReleased = false ∧ y.isReleased = false ∧ y.size = x.size := by
  cases x with
  | released => cases h
  | live es =>
    rw [set_eq] at h
    split_ifs at h with hi
    obtain rfl := (Option.some.inj h).symm
    exact ⟨rfl, rfl, Array.size_setIfInBounds⟩

/-! ## What operations do to one batch -/

/-- What an operation does to batch `b`. -/
def Op.effect (b : Nat) (x : Batch) : Op → Batch
  | .set c i e => if c = b then (x.set i e).getD x else x
  | .release c => if c = b then x.release else x
  | _ => x

/-- The event that an operation sets at `j` in batch `b`, if it does. -/
def Op.setAt? (b : Nat) (j : Int64) : Op → Option Event
  | .set c i e => if c = b ∧ j = i then some e else none
  | _ => none

/-- The last event that operations have set at `j` in batch `b`; `e` if they have set none. -/
def lastSet (b : Nat) (j : Int64) (ops : List Op) (e : Event) : Event :=
  (ops.filterMap (Op.setAt? b j)).getLast?.getD e

/-- What operations do to batch `b`, one after the other. -/
def effects (b : Nat) (ops : List Op) (x : Batch) : Batch := ops.foldl (Op.effect b) x

theorem lastSet_cons (op : Op) (ops : List Op) (e : Event) :
    lastSet b j (op :: ops) e = lastSet b j ops ((op.setAt? b j).getD e) := by
  unfold lastSet
  rw [List.filterMap_cons]
  cases op.setAt? b j with
  | none => rfl
  | some d => simp [List.getLast?_cons]

/-- A batch that has been released stays so. -/
theorem effects_released (ops : List Op) : effects b ops released = released := by
  induction ops with
  | nil => rfl
  | cons op ops ih =>
    have hop : Op.effect b released op = released := by
      cases op <;> simp [Op.effect, Batch.set, release]
    unfold effects at ih ⊢
    rw [List.foldl_cons, hop, ih]

/-- A batch is released by the operation that does so, whatever is done before and after. -/
theorem effects_of_release {ops : List Op} (h : Op.release b ∈ ops) (x : Batch) :
    effects b ops x = released := by
  induction ops generalizing x with
  | nil => cases h
  | cons op ops ih =>
    rcases List.mem_cons.mp h with rfl | hlater
    · have hop : Op.effect b x (.release b) = released := if_pos rfl
      unfold effects
      rw [List.foldl_cons, hop]
      exact effects_released ops
    · exact ih hlater _

/-- What is not its release leaves a batch its length, and sets the events it sets. -/
theorem effect_spec {op : Op} (hop : op ≠ .release b) (x : Batch) :
    (op.effect b x).isReleased = x.isReleased ∧ (op.effect b x).size = x.size ∧
      ∀ j, (op.effect b x).event j = (x.event j).map (op.setAt? b j).getD := by
  have hstill : ∀ j, x.event j = (x.event j).map (none : Option Event).getD := fun j =>
    (Option.map_id' (x := x.event j)).symm
  cases op with
  | set c i e =>
    by_cases hcb : c = b
    · subst hcb
      simp only [Op.effect, Op.setAt?, if_pos, true_and]
      cases hset : x.set i e with
      | none =>
        refine ⟨rfl, rfl, fun j => ?_⟩
        by_cases hji : j = i
        · rw [hji, Option.getD_none, set_eq_none_iff.mp hset, Option.map_none]
        · rw [if_neg hji]
          exact hstill j
      | some y =>
        obtain ⟨hlive, hlive', hsize⟩ := size_of_set hset
        refine ⟨hlive'.trans hlive.symm, hsize, fun j => ?_⟩
        rw [Option.getD_some, event_of_set hset]
        by_cases hji : j = i
        · rw [if_pos hji, if_pos hji]
          cases hevent : x.event j with
          | none => rw [set_eq_none_iff.mpr (hji ▸ hevent)] at hset; cases hset
          | some d => rfl
        · rw [if_neg hji, if_neg hji]
          exact hstill j
    · have heffect : (Op.set c i e).effect b x = x := if_neg hcb
      have hnone : ∀ j, (Op.set c i e).setAt? b j = none := fun j => if_neg fun h => hcb h.1
      refine ⟨by rw [heffect], by rw [heffect], fun j => ?_⟩
      rw [heffect, hnone]
      exact hstill j
  | release c =>
    have heffect : (Op.release c).effect b x = x := if_neg fun h => hop (congrArg _ h)
    refine ⟨by rw [heffect], by rw [heffect], fun j => ?_⟩
    rw [heffect]
    exact hstill j
  | new _ _ => exact ⟨rfl, rfl, hstill⟩
  | fromSlices _ _ => exact ⟨rfl, rfl, hstill⟩
  | amplify _ _ _ _ => exact ⟨rfl, rfl, hstill⟩
  | event _ _ => exact ⟨rfl, rfl, hstill⟩
  | slice _ _ _ => exact ⟨rfl, rfl, hstill⟩

/-- **Until its release a batch keeps its length, and each event is the last that was set there, or
the one it had before.** -/
theorem effects_spec {ops : List Op} (h : Op.release b ∉ ops) (x : Batch) :
    (effects b ops x).isReleased = x.isReleased ∧ (effects b ops x).size = x.size ∧
      ∀ j, (effects b ops x).event j = (x.event j).map (lastSet b j ops) := by
  -- what the first operation sets is what a later one that sets nothing leaves
  induction ops generalizing x with
  | nil => exact ⟨rfl, rfl, fun j => (Option.map_id' (x := x.event j)).symm⟩
  | cons op ops ih =>
    rw [List.mem_cons, not_or] at h
    obtain ⟨hlive, hsize, hevents⟩ := effect_spec (Ne.symm h.1) x
    obtain ⟨hlive', hsize', hevents'⟩ := ih h.2 (op.effect b x)
    refine ⟨hlive'.trans hlive, hsize'.trans hsize, fun j => (hevents' j).trans ?_⟩
    rw [hevents, Option.map_map]
    exact congrArg (fun f => Option.map f (x.event j)) (funext fun e => (lastSet_cons op ops e).symm)

/-! ## Ranges in exact numbers -/

/-- The end of a range is its exact sum, or what is left of it when it does not fit a word. -/
theorem toInt_stop (offset length : Int64) :
    (offset + length).toInt = offset.toInt + length.toInt ∨
      (offset + length).toInt = offset.toInt + length.toInt - 0x10000000000000000 ∨
      (offset + length).toInt = offset.toInt + length.toInt + 0x10000000000000000 := by
  rw [Int64.toInt_add, Int.bmod_def]
  have := offset.toInt_lt
  have := length.toInt_lt
  have := offset.le_toInt
  have := length.le_toInt
  split_ifs <;> omega

/-- **A range is cut out exactly if it is one in exact numbers**; a sum that does not fit a word is
none. -/
theorem slice_eq (hlive : x.isReleased = false) (hsize : (x.size : Int) ≤ Allocator.maxColumn)
    (offset length : Int64) :
    x.slice offset length =
      if 0 ≤ offset.toInt ∧ 0 ≤ length.toInt ∧ offset.toInt + length.toInt ≤ x.size then
        some (Columns.ofEvents
          ((x.events.toList.drop offset.toInt.toNat).take length.toInt.toNat))
      else none := by
  unfold Allocator.maxColumn at hsize
  have hstop := toInt_stop offset length
  have := offset.toInt_lt
  have := length.toInt_lt
  have := offset.le_toInt
  have := length.le_toInt
  have := (offset + length).toInt_lt
  have := (offset + length).le_toInt
  cases x with
  | released => cases hlive
  | live es =>
    unfold slice range size events at *
    simp only at hsize ⊢
    -- a sum that wraps is negative, and a negative length ends before it starts
    by_cases hrange :
        0 ≤ offset.toInt ∧ 0 ≤ length.toInt ∧ offset.toInt + length.toInt ≤ es.size
    · have hexact : (offset + length).toInt = offset.toInt + length.toInt := by omega
      have hlength : (offset.toInt + length.toInt).toNat - offset.toInt.toNat =
          length.toInt.toNat := by omega
      rw [if_pos hrange, if_pos (by omega), hexact, Option.map_some, Array.toList_extract,
        List.extract_eq_take_drop, hlength]
    · rw [if_neg hrange, if_neg (by omega), Option.map_none]

/-! ## One batch in memory -/

/-- What an operation makes a batch of. -/
inductive Made (m : Memory) : Op → Array Event → Prop
  | new (a : Allocator) {count : Int64} {es : Array Event} (size : (es.size : Int) = count.toInt)
      (zeros : ∀ e ∈ es, e = ⟨0, 0⟩) : Made m (.new a count) es
  | fromSlices {ids : Given Int64} {timestamps : Given Int32} {es : Array Event}
      (columns : m.shown ids timestamps = Columns.ofEvents es.toList) :
      Made m (.fromSlices ids timestamps) es
  | amplify (a : Allocator) {b : Nat} {factor : Int64} {offset : Int32} {fs es : Array Event}
      (source : m.batch b = live fs) (positive : 1 ≤ factor.toInt)
      (tiles : Tiles fs factor.toInt.toNat offset (live es)) :
      Made m (.amplify b factor a offset) es

namespace Memory

variable {m : Memory} {op : Op}

theorem length_batches (m : Memory) : m.batches.length = m.objects.length := List.length_map ..

/-- A batch that has been made is in its place. -/
theorem getElem?_batches_eq_some : m.batches[b]? = some x ↔ b < m.objects.length ∧ m.batch b = x := by
  rw [batch_eq, ← length_batches, List.getElem?_eq_some_iff]
  constructor
  · rintro ⟨hb, rfl⟩
    exact ⟨hb, by rw [List.getElem?_eq_getElem hb, Option.getD_some]⟩
  · rintro ⟨hb, rfl⟩
    exact ⟨hb, by rw [List.getElem?_eq_getElem hb, Option.getD_some]⟩

/-- A new batch leaves the others in their places. -/
theorem getElem?_grown {bs : List Batch} (hb : bs[b]? = some x) (granted : Except Stop Batch) :
    (grown bs granted).1[b]? = some x := by
  cases granted with
  | error s => exact hb
  | ok y =>
    rw [← hb]
    exact List.getElem?_append_left (List.getElem?_eq_some_iff.mp hb).1

/-- What an operation on values does to one batch. -/
theorem getElem?_answer (hb : m.batches[b]? = some x) (op : Op) :
    (m.answer op).1[b]? = some (op.effect b x) := by
  have hx : m.batch b = x := (getElem?_batches_eq_some.mp hb).2
  cases op with
  | new a count => exact getElem?_grown hb _
  | fromSlices ids timestamps => exact getElem?_grown hb _
  | amplify c factor a offset => exact getElem?_grown hb _
  | event c i => exact hb
  | slice c offset length => exact hb
  | set c i e =>
    simp only [answer, Op.effect]
    split
    · next y hset =>
      rw [List.getElem?_set]
      split_ifs with hcb hlt
      · subst hcb
        rw [← hx, hset, Option.getD_some]
      · exact absurd (List.getElem?_eq_some_iff.mp hb).1 (hcb ▸ hlt)
      · exact hb
    · next hset =>
      split_ifs with hcb
      · subst hcb
        rw [← hx, hset, Option.getD_none, hx, hb]
      · exact hb
  | release c =>
    simp only [answer, Op.effect]
    rw [List.getElem?_set]
    split_ifs with hcb hlt
    · rfl
    · exact absurd (List.getElem?_eq_some_iff.mp hb).1 (hcb ▸ hlt)
    · exact hb

/-- **What is done to a batch in memory is what is done to it by name**; the other batches do not
count. -/
theorem Sound.batch_step (h : m.Sound) (hb : b < m.objects.length) (op : Op) :
    b < (m.step op).1.objects.length ∧ (m.step op).1.batch b = op.effect b (m.batch b) := by
  have hat := getElem?_answer (getElem?_batches_eq_some.mpr ⟨hb, rfl⟩) op
  rw [← (h.agrees op).batches] at hat
  exact getElem?_batches_eq_some.mp hat

/-- So it is for as long as memory is worked on. -/
theorem Sound.batch_run (h : m.Sound) (hb : b < m.objects.length) (ops : List Op) :
    (m.run ops).batch b = effects b ops (m.batch b) := by
  induction ops generalizing m with
  | nil => rfl
  | cons op ops ih =>
    obtain ⟨hb', hop⟩ := h.batch_step hb op
    have hrun := ih (h.agrees op).sound hb'
    rw [hop] at hrun
    exact hrun

/-- A batch that is made comes after all others. -/
theorem grown_made {bs : List Batch} {granted : Except Stop Batch}
    (h : (grown bs granted).2 = .made b) :
    ∃ x, granted = .ok x ∧ b = bs.length ∧ (grown bs granted).1 = bs ++ [x] := by
  cases granted with
  | error s => cases h
  | ok x =>
    cases h
    exact ⟨x, rfl, rfl, rfl⟩

/-- What is granted stands under a new name. -/
theorem Sound.stands_of_granted (h : m.Sound) {granted : Except Stop Batch}
    (hanswer : m.answer op = grown m.batches granted) (hmade : (m.step op).2 = .made b) :
    ∃ x, granted = .ok x ∧ b = m.objects.length ∧ b < (m.step op).1.objects.length ∧
      (m.step op).1.batch b = x := by
  rw [(h.agrees op).reply, hanswer] at hmade
  obtain ⟨x, hx, hb, hgrown⟩ := grown_made hmade
  have hat : (m.step op).1.batches[b]? = some x := by
    rw [(h.agrees op).batches, hanswer, hgrown, hb]
    exact List.getElem?_concat_length
  exact ⟨x, hx, hb.trans m.length_batches, getElem?_batches_eq_some.mp hat⟩

/-- **What is made is a new batch of the events that were asked for.** -/
theorem Sound.made (h : m.Sound) (hmade : (m.step op).2 = .made b) :
    b = m.objects.length ∧ b < (m.step op).1.objects.length ∧
      ∃ es, Made m op es ∧ (m.step op).1.batch b = live es := by
  cases op with
  | new a count =>
    obtain ⟨x, hx, hb, hlt, hbatch⟩ := h.stands_of_granted rfl hmade
    obtain ⟨n, hn, -, rfl⟩ := eq_of_new_ok hx
    exact ⟨hb, hlt, _, .new a (by rwa [Array.size_replicate]) (by simp), hbatch⟩
  | fromSlices ids timestamps =>
    obtain ⟨x, hx, hb, hlt, hbatch⟩ := h.stands_of_granted rfl hmade
    obtain ⟨es, -, hes, rfl⟩ := eq_of_ofColumns_ok hx
    exact ⟨hb, hlt, es, .fromSlices hes, hbatch⟩
  | amplify c factor a offset =>
    obtain ⟨x, hx, hb, hlt, hbatch⟩ := h.stands_of_granted rfl hmade
    obtain ⟨es, hes, hfactor, -, rfl⟩ := eq_of_amplify_ok hx
    exact ⟨hb, hlt, _, .amplify a hes hfactor (tile_tiles es _ offset), hbatch⟩
  | set c i e =>
    rw [(h.agrees _).reply] at hmade
    simp only [answer] at hmade
    split at hmade <;> cases hmade
  | event c i =>
    rw [(h.agrees _).reply] at hmade
    simp only [answer] at hmade
    cases hevent : (m.batch c).event i <;> rw [hevent] at hmade <;> cases hmade
  | slice c offset length =>
    rw [(h.agrees _).reply] at hmade
    simp only [answer] at hmade
    cases hslice : (m.batch c).slice offset length <;> rw [hslice] at hmade <;> cases hmade
  | release c =>
    rw [(h.agrees _).reply] at hmade
    cases hmade

end Memory

/-! ## Every history -/

/-- **How batch `b`, made of the events `es`, stands once `later` has been done**: released and
without events if that was among it; else as long as it was made, and each event is the last one set
there, or the one it was made with. -/
structure Lives (m : Memory) (b : Nat) (es : Array Event) (later : List Op) : Prop where
  released : Op.release b ∈ later →
    m.batch b = released ∧ m.idsOf b = #[] ∧ m.timestampsOf b = #[]
  kept : Op.release b ∉ later → (m.batch b).isReleased = false ∧ (m.batch b).size = es.size
  events : Op.release b ∉ later → ∀ j, (m.step (.event b j)).2 =
    ((live es).event j).elim (.stopped .crash) fun e => .event (lastSet b j later e)

namespace Memory

variable {m : Memory}

/-- **What holds of batches in memory at any time.** -/
structure Orderly (m : Memory) : Prop where
  /-- Both columns of a batch are as long as the batch. -/
  columns : ∀ b, (m.idsOf b).size = (m.batch b).size ∧
    (m.timestampsOf b).size = (m.batch b).size
  /-- An operation does and replies what the one on values does. -/
  agrees : ∀ op, (m.step op).1.batches = (m.answer op).1 ∧ (m.step op).2 = (m.answer op).2
  /-- What fails or crashes changes nothing. -/
  stopped : ∀ op s, (m.step op).2 = .stopped s → (m.step op).1 = m
  /-- An event is set exactly if there is one, and no other event of any batch changes. -/
  set : ∀ b i e,
    ((m.step (.set b i e)).2 = .done ↔ 0 ≤ i.toInt ∧ i.toInt < (m.batch b).size) ∧
    ((m.step (.set b i e)).2 = .done → ∀ c j, ((m.step (.set b i e)).1.step (.event c j)).2 =
      if c = b ∧ j = i then .event e else (m.step (.event c j)).2)
  /-- A range of a batch is cut out exactly if it is one in exact numbers. -/
  slice : ∀ b offset length, (m.batch b).isReleased = false →
    (m.step (.slice b offset length)).2 =
      if 0 ≤ offset.toInt ∧ 0 ≤ length.toInt ∧
          offset.toInt + length.toInt ≤ (m.batch b).size then
        .columns (Columns.ofEvents (((m.batch b).events.toList.drop offset.toInt.toNat).take
          length.toInt.toNat))
      else .stopped .crash
  /-- A batch that is made has a new name, and nothing but what is done to it by that name changes
  it. -/
  lives : ∀ op b, (m.step op).2 = .made b → m.objects.length ≤ b ∧
    ∃ es, Made m op es ∧ ∀ later, Lives ((m.step op).1.run later) b es later

/-- Both columns of a batch are as long as the batch. -/
theorem Sound.columns (h : m.Sound) (b : Nat) :
    (m.idsOf b).size = (m.batch b).size ∧ (m.timestampsOf b).size = (m.batch b).size := by
  cases hb : m.batch b with
  | live es =>
    obtain ⟨hids, htimestamps⟩ := h.columns_of_live hb
    rw [hids, htimestamps, Array.size_map, Array.size_map]
    exact ⟨rfl, rfl⟩
  | released =>
    obtain ⟨hids, htimestamps⟩ := h.columns_of_released hb
    rw [hids, htimestamps]
    exact ⟨rfl, rfl⟩

/-- The events of a batch can be addressed. -/
theorem Sound.addressed (h : m.Sound) (b : Nat) : ((m.batch b).size : Int) ≤ Allocator.maxColumn := by
  cases h.standing b with
  | gone hobject =>
    rw [batch_of_gone hobject]
    decide
  | held es hlt hobject hes =>
    rw [hes.batch hobject]
    exact hes.addressed

/-- What is replied to a request for an event. -/
theorem Sound.event_reply (h : m.Sound) (b : Nat) (j : Int64) :
    (m.step (.event b j)).2 = ((m.batch b).event j).elim (.stopped .crash) .event :=
  (h.agrees (.event b j)).reply

/-- A write is done exactly if there is an event to be replaced. -/
theorem Sound.set_done_iff (h : m.Sound) :
    (m.step (.set b i e)).2 = .done ↔ ∃ y, (m.batch b).set i e = some y := by
  rw [(h.agrees _).reply]
  simp only [answer]
  cases (m.batch b).set i e with
  | none => exact ⟨nofun, nofun⟩
  | some y => exact ⟨fun _ => ⟨y, rfl⟩, fun _ => rfl⟩

/-- A write leaves every other batch as it is. -/
theorem Sound.batch_of_set (h : m.Sound) (hset : (m.batch b).set i e = some y) (c : Nat) :
    (m.step (.set b i e)).1.batch c = if c = b then y else m.batch c := by
  have hbatches : (m.step (.set b i e)).1.batches = m.batches.set b y := by
    rw [(h.agrees _).batches]
    simp only [answer, hset]
  have hb : b < m.batches.length := by
    refine Nat.lt_of_not_le fun hle => ?_
    rw [batch_eq, List.getElem?_eq_none hle, Option.getD_none] at hset
    cases hset
  rw [batch_eq, hbatches, batch_eq m c]
  by_cases hcb : c = b
  · subst hcb
    rw [List.getElem?_set_self hb, Option.getD_some, if_pos rfl]
  · rw [List.getElem?_set_ne (Ne.symm hcb), if_neg hcb]

/-- **A write is done exactly within the batch, and no other event of any batch changes.** -/
theorem Sound.set_spec (h : m.Sound) (b : Nat) (i : Int64) (e : Event) :
    ((m.step (.set b i e)).2 = .done ↔ 0 ≤ i.toInt ∧ i.toInt < (m.batch b).size) ∧
      ((m.step (.set b i e)).2 = .done → ∀ c j,
        ((m.step (.set b i e)).1.step (.event c j)).2 =
          if c = b ∧ j = i then .event e else (m.step (.event c j)).2) := by
  refine ⟨h.set_done_iff.trans exists_set_iff, fun hdone c j => ?_⟩
  obtain ⟨y, hset⟩ := h.set_done_iff.mp hdone
  rw [(h.agrees _).sound.event_reply, h.batch_of_set hset, h.event_reply]
  by_cases hcb : c = b
  · subst hcb
    rw [if_pos rfl, event_of_set hset]
    by_cases hji : j = i
    · rw [if_pos hji, if_pos ⟨rfl, hji⟩, Option.elim_some]
    · rw [if_neg hji, if_neg fun hand => hji hand.2]
  · rw [if_neg hcb, if_neg fun hand => hcb hand.1]

/-- **A range of a batch is cut out exactly if it is one in exact numbers.** -/
theorem Sound.slice_spec (h : m.Sound) (hlive : (m.batch b).isReleased = false)
    (offset length : Int64) :
    (m.step (.slice b offset length)).2 =
      if 0 ≤ offset.toInt ∧ 0 ≤ length.toInt ∧
          offset.toInt + length.toInt ≤ (m.batch b).size then
        .columns (Columns.ofEvents (((m.batch b).events.toList.drop offset.toInt.toNat).take
          length.toInt.toNat))
      else .stopped .crash := by
  rw [(h.agrees _).reply]
  simp only [answer]
  rw [slice_eq hlive (h.addressed b)]
  split_ifs <;> rfl

/-- **A batch keeps to itself** for as long as memory is worked on. -/
theorem Sound.lives (h : m.Sound) (hb : b < m.objects.length) (hes : m.batch b = live es)
    (later : List Op) : Lives (m.run later) b es later where
  released hrelease := by
    have hgone : (m.run later).batch b = .released := by
      rw [h.batch_run hb, effects_of_release hrelease]
    exact ⟨hgone, (h.run later).columns_of_released hgone⟩
  kept hrelease := by
    obtain ⟨hlive, hsize, -⟩ := effects_spec hrelease (live es)
    rw [h.batch_run hb, hes]
    exact ⟨hlive, hsize⟩
  events hrelease j := by
    obtain ⟨-, -, hevents⟩ := effects_spec hrelease (live es)
    rw [(h.run later).event_reply, h.batch_run hb, hes, hevents]
    cases (live es).event j <;> rfl

/-- **Whatever has been done before, batches in memory are in order.** -/
theorem run_orderly (ops : List Op) : (run {} ops).Orderly :=
  have h := sound_empty.run ops
  { columns := h.columns
    agrees := fun op => ⟨(h.agrees op).batches, (h.agrees op).reply⟩
    stopped := fun _ _ => h.step_stopped
    set := h.set_spec
    slice := fun _ offset length hlive => h.slice_spec hlive offset length
    lives := fun op b hmade => by
      obtain ⟨hb, hlt, es, hes, hbatch⟩ := h.made hmade
      exact ⟨Nat.le_of_eq hb.symm, es, hes, (h.agrees op).sound.lives hlt hbatch⟩ }

/-- A batch that was made from a view of another keeps its events when the other is written to and
released, and the view shows what was written last. -/
example :
    let m := run {} [.new .unlimited 2, .slice 0 0 2, .fromSlices (.view 0) (.view 0),
      .set 0 1 ⟨7, 8⟩, .release 0, .fromSlices (.view 0) (.view 0)]
    (m.idsOf 0, m.idsOf 1, m.idsOf 2) = (#[], #[0, 0], #[0, 7]) := by
  decide

end Memory

end DetectorStream.Batch
