import DetectorStream.Proofs.Batch.Copying

/-!
# Batches in memory

In memory a batch is an object that refers to two columns, one of detector ids and one of
timestamps. They are separate arrays: a write goes into one and then into the other, and could go
wrong between the two. A slice of a batch is a view of its columns that shows what is written later,
also when the batch has been released; what a batch is made from is copied. No operation writes
through a view.

* `Batch.Memory`: the columns, the objects that refer to them, and the views that have been taken.
* `Batch.Op`, `Batch.Memory.step`, `Batch.Memory.run`: one operation, and one after the other.
* `Batch.Memory.answer`: what the operations on batches as values make of the same request.
* `Batch.Memory.Sound`: each object is gone or owns two columns that belong to no other, and these
  are the columns of one array of events.
* `Batch.Memory.Writes`: columns at one place are written, and the other batches are as they were.
* **`Batch.Memory.Sound.agrees`**: an operation in memory does and replies what the one on values
  does, and memory stays sound.
* `Batch.Memory.Sound.step_stopped`: what fails or crashes has written nothing.
-/

namespace DetectorStream.Batch

/-! ## Operations -/

/-- Where a column for a new batch comes from: elements at hand, or a view that was taken before. -/
inductive Given (α : Type)
  | elements (xs : List α)
  | view (v : Nat)

/-- An operation on batches, which are named by the order in which they were made. A name that
stands for no batch is that of a batch that has been released. -/
inductive Op
  | new (a : Allocator) (count : Int64)
  | fromSlices (ids : Given Int64) (timestamps : Given Int32)
  | amplify (b : Nat) (factor : Int64) (a : Allocator) (offset : Int32)
  | set (b : Nat) (i : Int64) (e : Event)
  | event (b : Nat) (i : Int64)
  | slice (b : Nat) (offset length : Int64)
  | release (b : Nat)

/-- What an operation replies. -/
inductive Reply
  | made (b : Nat)
  | done
  | event (e : Event)
  | columns (c : Columns)
  | stopped (s : Stop)

/-! ## What is granted -/

/-- A batch of so many events is one of zeros. -/
theorem eq_of_new_ok {a : Allocator} {count : Int64} {b : Batch} (h : new a count = .ok b) :
    ∃ n : Nat, (n : Int) = count.toInt ∧ (n : Int) ≤ Allocator.maxColumn ∧
      b = live (Array.replicate n ⟨0, 0⟩) := by
  obtain ⟨⟨hnonneg, -⟩, hcolumn, -⟩ := (new_answers a count).of_ok h
  refine ⟨count.toInt.toNat, Int.toNat_of_nonneg hnonneg, by omega, ?_⟩
  unfold new at h
  split at h
  · cases h
  · exact (Except.ok.inj h).symm

/-- A batch of given columns holds the events whose columns these are. -/
theorem eq_of_ofColumns_ok {a : Allocator} {c : Columns} {b : Batch} (h : ofColumns a c = .ok b) :
    ∃ es : Array Event, (es.size : Int) ≤ Allocator.maxColumn ∧ c = Columns.ofEvents es.toList ∧
      b = live es := by
  by_cases hlengths : c.ids.length = c.timestamps.length
  · obtain ⟨-, hcolumn, rfl⟩ := (ofColumns_answers a hlengths).of_ok h
    refine ⟨_, ?_, (Columns.ofEvents_events hlengths).symm, rfl⟩
    simpa [Columns.events, ← hlengths] using hcolumn
  · obtain ⟨f, hf, -⟩ := ofColumns_of_ne (a := a) hlengths
    rw [hf] at h
    cases h

/-- Amplifying makes copies of what has not been released. -/
theorem eq_of_amplify_ok {x b : Batch} {factor : Int64} {a : Allocator} {offset : Int32}
    (h : x.amplify factor a offset = .ok b) :
    ∃ es : Array Event, x = live es ∧ 1 ≤ factor.toInt ∧
      ((tile es factor.toInt.toNat offset).size : Int) ≤ Allocator.maxColumn ∧
      b = live (tile es factor.toInt.toNat offset) := by
  cases x with
  | released => cases h
  | live es =>
    by_cases hfactor : 1 ≤ factor.toInt
    · obtain ⟨-, hcolumn, rfl⟩ := (amplify_grants a es hfactor offset).of_ok h
      refine ⟨es, rfl, hfactor, ?_, rfl⟩
      rw [size_tile, Int.natCast_mul, Int.toNat_of_nonneg (by omega)]
      exact hcolumn
    · rw [amplify_of_lt (by omega)] at h
      cases h

/-! ## Memory -/

section Column

variable {α : Type}

/-- The column at a place; what refers to no place has no elements. -/
def column (heap : List (Array α)) (place : Option Nat) : Array α :=
  (place.bind fun p => heap[p]?).getD #[]

/-- Element `i` of the column at a place; `none` when there is none. -/
def element? (heap : List (Array α)) (place : Option Nat) (i : Int64) : Option α :=
  if 0 ≤ i.toInt then (column heap place)[i.toInt.toNat]? else none

/-- Put a column at a place. -/
def store (heap : List (Array α)) (xs : Array α) : Option Nat → List (Array α)
  | some p => heap.set p xs
  | none => heap

/-- Replace element `i` of the column at a place; `none` when there is none. -/
def put? (heap : List (Array α)) (place : Option Nat) (i : Int64) (x : α) :
    Option (List (Array α)) :=
  let xs := column heap place
  if 0 ≤ i.toInt ∧ i.toInt < xs.size then
    some (store heap (xs.setIfInBounds i.toInt.toNat x) place)
  else none

/-- The elements from `start` up to `stop`; `none` when that is no range of the column. -/
def cut? (heap : List (Array α)) (place : Option Nat) (start stop : Int64) : Option (Array α) :=
  let xs := column heap place
  if 0 ≤ start.toInt ∧ start.toInt ≤ stop.toInt ∧ stop.toInt ≤ xs.size then
    some (xs.extract start.toInt.toNat stop.toInt.toNat)
  else none

/-- Copies of a column side by side, each element moved by the number of its copy. -/
def copies (move : Nat → α → α) (xs : Array α) (factor : Nat) : Array α :=
  (Array.range factor).flatMap fun k => xs.map (move k)

theorem column_of_getElem? {heap : List (Array α)} {p : Nat} {xs : Array α}
    (h : heap[p]? = some xs) : column heap (some p) = xs := by
  unfold column
  rw [Option.bind_some, h, Option.getD_some]

end Column

/-- What a batch is in memory: where its columns are, and has it been released? -/
structure Object where
  ids : Option Nat
  timestamps : Option Nat
  released : Bool

namespace Object

/-- A batch that has been released. -/
def gone : Object := ⟨none, none, true⟩

/-- A batch whose columns are at place `k`. -/
def owning (k : Nat) : Object := ⟨some k, some k, false⟩

end Object

/-- The elements from `start` up to `stop` of two columns. -/
structure View where
  ids : Option Nat
  timestamps : Option Nat
  start : Nat
  stop : Nat

/-- The columns, the batches and the views, in the order in which they were made. -/
structure Memory where
  ids : List (Array Int64) := []
  timestamps : List (Array Int32) := []
  objects : List Object := []
  views : List View := []

namespace Memory

variable {m : Memory}

/-- The object that a name stands for. -/
def object (m : Memory) (b : Nat) : Object := m.objects[b]?.getD .gone

/-- The detector ids of a batch. -/
def idsOf (m : Memory) (b : Nat) : Array Int64 := column m.ids (m.object b).ids

/-- The timestamps of a batch. -/
def timestampsOf (m : Memory) (b : Nat) : Array Int32 :=
  column m.timestamps (m.object b).timestamps

/-- The batch that an object stands for: event by event, what its columns hold. -/
def read (m : Memory) (o : Object) : Batch :=
  if o.released then released
  else live (Array.zipWith Event.mk (column m.ids o.ids) (column m.timestamps o.timestamps))

/-- The batch that a name stands for. -/
def batch (m : Memory) (b : Nat) : Batch := m.read (m.object b)

/-- All batches that have been made, as they stand. -/
def batches (m : Memory) : List Batch := m.objects.map m.read

/-- The elements that a column for a new batch holds now. -/
def shown (m : Memory) (ids : Given Int64) (timestamps : Given Int32) : Columns where
  ids := match ids with
    | .elements xs => xs
    | .view v => match m.views[v]? with
      | some w => ((column m.ids w.ids).extract w.start w.stop).toList
      | none => []
  timestamps := match timestamps with
    | .elements xs => xs
    | .view v => match m.views[v]? with
      | some w => ((column m.timestamps w.timestamps).extract w.start w.stop).toList
      | none => []

/-- A new batch, if it is granted: its columns are fresh arrays. -/
def grant (m : Memory) (granted : Except Stop Batch) (ids : Array Int64)
    (timestamps : Array Int32) : Memory × Reply :=
  match granted with
  | .error s => (m, .stopped s)
  | .ok _ =>
    ({ m with
        ids := m.ids ++ [ids]
        timestamps := m.timestamps ++ [timestamps]
        objects := m.objects ++ [⟨some m.ids.length, some m.timestamps.length, false⟩] },
      .made m.objects.length)

/-- Do one operation. A crash leaves memory as it is at that moment. -/
def step (m : Memory) : Op → Memory × Reply
  | .new a count =>
    m.grant (new a count) (Array.replicate count.toInt.toNat 0)
      (Array.replicate count.toInt.toNat 0)
  | .fromSlices ids timestamps =>
    let c := m.shown ids timestamps
    m.grant (ofColumns .unlimited c) c.ids.toArray c.timestamps.toArray
  | .amplify b factor a offset =>
    m.grant ((m.batch b).amplify factor a offset)
      (copies (fun _ d => d) (m.idsOf b) factor.toInt.toNat)
      (copies (fun k t => t + shift offset k) (m.timestampsOf b) factor.toInt.toNat)
  | .set b i e =>
    match put? m.ids (m.object b).ids i e.detector with
    | none => (m, .stopped .crash)
    | some ids =>
      match put? m.timestamps (m.object b).timestamps i e.timestamp with
      | none => ({ m with ids }, .stopped .crash)
      | some timestamps => ({ m with ids, timestamps }, .done)
  | .event b i =>
    match element? m.ids (m.object b).ids i, element? m.timestamps (m.object b).timestamps i with
    | some d, some t => (m, .event ⟨d, t⟩)
    | _, _ => (m, .stopped .crash)
  | .slice b offset length =>
    let o := m.object b
    if o.released then ({ m with views := m.views ++ [⟨none, none, 0, 0⟩] }, .columns .empty)
    else
      let stop := offset + length
      match cut? m.ids o.ids offset stop, cut? m.timestamps o.timestamps offset stop with
      | some ids, some timestamps =>
        ({ m with
            views := m.views ++
              [⟨o.ids, o.timestamps, offset.toInt.toNat, stop.toInt.toNat⟩] },
          .columns ⟨ids.toList, timestamps.toList⟩)
      | _, _ => (m, .stopped .crash)
  | .release b =>
    if (m.object b).released then (m, .done)
    else ({ m with objects := m.objects.set b .gone }, .done)

/-- Do operations one after the other, whatever they reply. -/
def run (m : Memory) (ops : List Op) : Memory := ops.foldl (fun m op => (m.step op).1) m

/-! ## The same on values -/

/-- One more batch, if it is granted. -/
def grown (bs : List Batch) : Except Stop Batch → List Batch × Reply
  | .ok b => (bs ++ [b], .made bs.length)
  | .error s => (bs, .stopped s)

/-- What the operations on batches as values make of the same request, and what they reply. -/
def answer (m : Memory) : Op → List Batch × Reply
  | .new a count => grown m.batches (new a count)
  | .fromSlices ids timestamps => grown m.batches (ofColumns .unlimited (m.shown ids timestamps))
  | .amplify b factor a offset => grown m.batches ((m.batch b).amplify factor a offset)
  | .set b i e =>
    match (m.batch b).set i e with
    | some changed => (m.batches.set b changed, .done)
    | none => (m.batches, .stopped .crash)
  | .event b i =>
    (m.batches, ((m.batch b).event i).elim (.stopped .crash) .event)
  | .slice b offset length =>
    (m.batches, ((m.batch b).slice offset length).elim (.stopped .crash) .columns)
  | .release b => (m.batches.set b (m.batch b).release, .done)

/-! ## Sound memory -/

/-- The columns at place `k` are those of the events `es`, which can be addressed. -/
structure Holds (m : Memory) (k : Nat) (es : Array Event) : Prop where
  addressed : (es.size : Int) ≤ Allocator.maxColumn
  ids : m.ids[k]? = some (es.map Event.detector)
  timestamps : m.timestamps[k]? = some (es.map Event.timestamp)

/-- **Memory is sound**: each object is gone or owns the columns at its own place, and the columns at
a place are those of one array of events. -/
structure Sound (m : Memory) : Prop where
  ids : m.ids.length = m.objects.length
  timestamps : m.timestamps.length = m.objects.length
  owned : ∀ k o, m.objects[k]? = some o → o = Object.gone ∨ o = Object.owning k
  paired : ∀ k < m.objects.length, ∃ es, m.Holds k es

/-- How a batch stands in sound memory. -/
inductive Standing (m : Memory) (b : Nat) : Prop
  | gone (object : m.object b = .gone)
  | held (es : Array Event) (made : b < m.objects.length) (object : m.object b = .owning b)
      (holds : m.Holds b es)

theorem sound_empty : Sound {} where
  ids := rfl
  timestamps := rfl
  owned _ _ h := by simp at h
  paired _ h := by simp at h

/-- In sound memory each name stands for a batch that is gone or owns its columns. -/
theorem Sound.standing (h : m.Sound) (b : Nat) : m.Standing b := by
  cases hb : m.objects[b]? with
  | none =>
    refine .gone ?_
    unfold Memory.object
    rw [hb, Option.getD_none]
  | some o =>
    have hobject : m.object b = o := by
      unfold Memory.object
      rw [hb, Option.getD_some]
    have hmade : b < m.objects.length := (List.getElem?_eq_some_iff.mp hb).1
    rcases h.owned b o hb with rfl | rfl
    · exact .gone hobject
    · obtain ⟨es, hes⟩ := h.paired b hmade
      exact .held es hmade hobject hes

/-! ### Reading -/

/-- The columns of events make up the events. -/
theorem zipWith_columns (es : Array Event) :
    Array.zipWith Event.mk (es.map Event.detector) (es.map Event.timestamp) = es := by
  rw [Array.zipWith_map, Array.zipWith_self]
  exact Array.map_id es

@[simp] theorem read_gone (m : Memory) : m.read .gone = released := rfl

/-- An object that owns the columns of some events stands for these. -/
theorem Holds.read {k : Nat} {es : Array Event} (h : m.Holds k es) :
    m.read (.owning k) = live es := by
  show live (Array.zipWith Event.mk (column m.ids (some k)) (column m.timestamps (some k))) = _
  rw [column_of_getElem? h.ids, column_of_getElem? h.timestamps, zipWith_columns]

section Standing

variable {b : Nat} {es : Array Event}

theorem batch_of_gone (h : m.object b = .gone) : m.batch b = released := by
  unfold batch
  rw [h, read_gone]

theorem Holds.batch (h : m.Holds b es) (hb : m.object b = .owning b) : m.batch b = live es := by
  unfold Memory.batch
  rw [hb, h.read]

theorem Holds.idsOf (h : m.Holds b es) (hb : m.object b = .owning b) :
    m.idsOf b = es.map Event.detector := by
  unfold Memory.idsOf
  rw [hb]
  exact column_of_getElem? h.ids

theorem Holds.timestampsOf (h : m.Holds b es) (hb : m.object b = .owning b) :
    m.timestampsOf b = es.map Event.timestamp := by
  unfold Memory.timestampsOf
  rw [hb]
  exact column_of_getElem? h.timestamps

/-- A batch that has not been released has the columns of its events. -/
theorem Sound.columns_of_live (h : m.Sound) (hb : m.batch b = live es) :
    m.idsOf b = es.map Event.detector ∧ m.timestampsOf b = es.map Event.timestamp := by
  cases h.standing b with
  | gone hobject =>
    rw [batch_of_gone hobject] at hb
    cases hb
  | held fs hlt hobject hfs =>
    rw [hfs.batch hobject] at hb
    cases hb
    exact ⟨hfs.idsOf hobject, hfs.timestampsOf hobject⟩

/-- A batch that has been released has no columns. -/
theorem Sound.columns_of_released (h : m.Sound) (hb : m.batch b = released) :
    m.idsOf b = #[] ∧ m.timestampsOf b = #[] := by
  cases h.standing b with
  | gone hobject =>
    unfold Memory.idsOf Memory.timestampsOf
    rw [hobject]
    exact ⟨rfl, rfl⟩
  | held fs hlt hobject hfs =>
    rw [hfs.batch hobject] at hb
    cases hb

end Standing

/-- A name stands for the batch in its place among all batches. -/
theorem getElem?_batches (m : Memory) (b : Nat) : m.batches[b]? = m.objects[b]?.map m.read := by
  unfold batches
  rw [List.getElem?_map]

theorem batch_eq (m : Memory) (b : Nat) : m.batch b = m.batches[b]?.getD released := by
  rw [getElem?_batches]
  unfold batch Memory.object
  cases m.objects[b]? <;> rfl

/-! ### Writing columns -/

/-- **The columns at place `p` are written**, and those at the places of the other batches are as
they were. -/
structure Writes (m : Memory) (p : Nat) (es : Array Event) (m' : Memory) : Prop where
  holds : m'.Holds p es
  others : ∀ k < m.objects.length, k ≠ p →
    m'.ids[k]? = m.ids[k]? ∧ m'.timestamps[k]? = m.timestamps[k]?

section Writes

variable {m' : Memory} {p k : Nat} {es : Array Event}

/-- What has been written and what was there before are columns of events. -/
theorem Writes.paired (hw : m.Writes p es m') (h : m.Sound) (hk : k < m.objects.length ∨ k = p) :
    ∃ fs, m'.Holds k fs := by
  by_cases hkp : k = p
  · exact ⟨es, hkp ▸ hw.holds⟩
  · have hlt : k < m.objects.length := hk.resolve_right hkp
    obtain ⟨fs, hfs⟩ := h.paired k hlt
    obtain ⟨hids, htimestamps⟩ := hw.others k hlt hkp
    exact ⟨fs, hfs.addressed, hids.trans hfs.ids, htimestamps.trans hfs.timestamps⟩

/-- An object whose columns have not been written stands for the batch it stood for. -/
theorem Writes.read_eq (hw : m.Writes p es m') (h : m.Sound) {o : Object}
    (ho : m.objects[k]? = some o) (hkp : k ≠ p) : m'.read o = m.read o := by
  have hlt : k < m.objects.length := (List.getElem?_eq_some_iff.mp ho).1
  rcases h.owned k o ho with rfl | rfl
  · rfl
  · obtain ⟨fs, hfs⟩ := h.paired k hlt
    obtain ⟨hids, htimestamps⟩ := hw.others k hlt hkp
    have hfs' : m'.Holds k fs :=
      ⟨hfs.addressed, hids.trans hfs.ids, htimestamps.trans hfs.timestamps⟩
    rw [hfs.read, hfs'.read]

end Writes

/-! ### An operation in memory is the one on values -/

/-- **An operation in memory does what the one on values does**: it replies the same, leaves the
same batches, and memory stays sound. -/
structure Agrees (m : Memory) (op : Op) : Prop where
  sound : (m.step op).1.Sound
  batches : (m.step op).1.batches = (m.answer op).1
  reply : (m.step op).2 = (m.answer op).2

theorem Agrees.of_eq {m' : Memory} {op : Op} {bs : List Batch} {r : Reply}
    (hstep : m.step op = (m', r)) (hanswer : m.answer op = (bs, r)) (hsound : m'.Sound)
    (hbatches : m'.batches = bs) : m.Agrees op where
  sound := by rw [hstep]; exact hsound
  batches := by rw [hstep, hanswer]; exact hbatches
  reply := by rw [hstep, hanswer]

/-! ### New batches -/

/-- Memory with a new batch of the events `es`. -/
def extended (m : Memory) (es : Array Event) : Memory :=
  { m with
      ids := m.ids ++ [es.map Event.detector]
      timestamps := m.timestamps ++ [es.map Event.timestamp]
      objects := m.objects ++ [.owning m.objects.length] }

/-- Fresh columns are at a new place. -/
theorem Sound.writes_extended (h : m.Sound) {es : Array Event}
    (hsize : (es.size : Int) ≤ Allocator.maxColumn) :
    m.Writes m.objects.length es (m.extended es) where
  holds := by
    refine ⟨hsize, ?_, ?_⟩
    · rw [← h.ids]
      exact List.getElem?_concat_length
    · rw [← h.timestamps]
      exact List.getElem?_concat_length
  others k hk _ :=
    ⟨List.getElem?_append_left (h.ids ▸ hk), List.getElem?_append_left (h.timestamps ▸ hk)⟩

/-- A new batch leaves the others as they are. -/
theorem Sound.extended (h : m.Sound) {es : Array Event}
    (hsize : (es.size : Int) ≤ Allocator.maxColumn) :
    (m.extended es).Sound ∧ (m.extended es).batches = m.batches ++ [live es] := by
  have hw := h.writes_extended hsize
  -- the new object owns the last place, where its columns are
  refine ⟨⟨?_, ?_, fun k o ho => ?_, fun k hk => hw.paired h ?_⟩, ?_⟩
  · simp [Memory.extended, h.ids]
  · simp [Memory.extended, h.timestamps]
  · rw [Memory.extended, List.getElem?_append] at ho
    split_ifs at ho with hk
    · exact h.owned k o ho
    · obtain ⟨hlast, rfl⟩ := List.getElem?_eq_some_iff.mp ho
      rw [List.length_singleton] at hlast
      obtain rfl : k = m.objects.length := by omega
      exact Or.inr (List.getElem_singleton _)
  · rw [Memory.extended, List.length_append, List.length_singleton] at hk
    omega
  · show (m.objects ++ [Object.owning m.objects.length]).map (m.extended es).read =
      m.objects.map m.read ++ [live es]
    rw [List.map_append, List.map_singleton, hw.holds.read]
    refine congrArg (· ++ [live es]) (List.map_congr_left fun o ho => ?_)
    obtain ⟨k, hk, hko⟩ := List.getElem_of_mem ho
    exact hw.read_eq h (hko ▸ List.getElem?_eq_getElem hk) (Nat.ne_of_lt hk)

/-- **A request is answered as the one on values is**, when what is granted are the events whose
columns are put into memory. -/
theorem Sound.agrees_of_grant (h : m.Sound) {op : Op} {granted : Except Stop Batch}
    {ids : Array Int64} {timestamps : Array Int32}
    (hstep : m.step op = m.grant granted ids timestamps)
    (hanswer : m.answer op = grown m.batches granted)
    (hcolumns : ∀ b, granted = .ok b → ∃ es : Array Event, (es.size : Int) ≤ Allocator.maxColumn ∧
      b = live es ∧ ids = es.map Event.detector ∧ timestamps = es.map Event.timestamp) :
    m.Agrees op := by
  cases granted with
  | error s => exact .of_eq hstep hanswer h rfl
  | ok b =>
    obtain ⟨es, hsize, rfl, rfl, rfl⟩ := hcolumns b rfl
    obtain ⟨hsound, hbatches⟩ := h.extended hsize
    have hgrant : m.grant (.ok (live es)) (es.map Event.detector) (es.map Event.timestamp) =
        (m.extended es, .made m.batches.length) := by
      unfold Memory.grant batches
      rw [h.ids, h.timestamps, List.length_map]
      rfl
    exact .of_eq (hstep.trans hgrant) hanswer hsound hbatches

/-- A batch of zero events is made of two columns of zeros. -/
theorem Sound.agrees_new (h : m.Sound) (a : Allocator) (count : Int64) :
    m.Agrees (.new a count) :=
  h.agrees_of_grant rfl rfl fun b hb => by
    obtain ⟨n, hn, hcolumn, rfl⟩ := eq_of_new_ok hb
    refine ⟨_, by rwa [Array.size_replicate], rfl, ?_, ?_⟩
    all_goals rw [Array.map_replicate, ← hn, Int.toNat_natCast]

/-- A column of the events of a list is one of those of the array. -/
theorem toArray_map_toList {α : Type} (field : Event → α) (es : Array Event) :
    (es.toList.map field).toArray = es.map field := by
  rw [← Array.toList_map, Array.toArray_toList]

/-- A batch of given columns is made of copies of them. -/
theorem Sound.agrees_fromSlices (h : m.Sound) (ids : Given Int64) (timestamps : Given Int32) :
    m.Agrees (.fromSlices ids timestamps) :=
  h.agrees_of_grant rfl rfl fun b hb => by
    obtain ⟨es, hcolumn, hes, rfl⟩ := eq_of_ofColumns_ok hb
    rw [hes]
    exact ⟨es, hcolumn, rfl, toArray_map_toList _ es, toArray_map_toList _ es⟩

/-- The columns of the copies are copies of the columns. -/
theorem columns_tile (es : Array Event) (factor : Nat) (offset : Int32) :
    copies (fun _ d => d) (es.map Event.detector) factor =
        (tile es factor offset).map Event.detector ∧
      copies (fun k t => t + shift offset k) (es.map Event.timestamp) factor =
        (tile es factor offset).map Event.timestamp := by
  unfold copies
  rw [tile_eq]
  simp only [Array.map_flatMap, Array.map_map]
  exact ⟨rfl, rfl⟩

/-- Copies are made of copies of the columns. -/
theorem Sound.agrees_amplify (h : m.Sound) (b : Nat) (factor : Int64) (a : Allocator)
    (offset : Int32) : m.Agrees (.amplify b factor a offset) :=
  h.agrees_of_grant rfl rfl fun made hmade => by
    obtain ⟨es, hes, -, hcolumn, rfl⟩ := eq_of_amplify_ok hmade
    obtain ⟨hids, htimestamps⟩ := h.columns_of_live hes
    rw [hids, htimestamps]
    exact ⟨_, hcolumn, rfl, columns_tile es factor.toInt.toNat offset⟩

/-! ### Writing events -/

/-- Writing to a column of events writes to the events. -/
theorem put?_map {α : Type} {heap : List (Array α)} {k : Nat} {es : Array Event}
    {field : Event → α} (h : heap[k]? = some (es.map field)) (i : Int64) (e : Event) :
    put? heap (some k) i (field e) =
      if 0 ≤ i.toInt ∧ i.toInt < es.size then
        some (heap.set k ((es.setIfInBounds i.toInt.toNat e).map field))
      else none := by
  unfold put?
  simp only [column_of_getElem? h, Array.size_map, Array.map_setIfInBounds]
  rfl

theorem put?_none {α : Type} (heap : List (Array α)) (i : Int64) (x : α) :
    put? heap none i x = none := by
  refine if_neg ?_
  show ¬ (0 ≤ i.toInt ∧ i.toInt < 0)
  omega

/-- Memory in which event `i` of batch `b` has been replaced. -/
def written (m : Memory) (b : Nat) (es : Array Event) : Memory :=
  { m with
      ids := m.ids.set b (es.map Event.detector)
      timestamps := m.timestamps.set b (es.map Event.timestamp) }

/-- Writing the columns of one batch leaves those of the others. -/
theorem Sound.writes_written {b : Nat} (h : m.Sound) (hb : b < m.objects.length) {es : Array Event}
    (hsize : (es.size : Int) ≤ Allocator.maxColumn) : m.Writes b es (m.written b es) where
  holds := ⟨hsize, List.getElem?_set_self (h.ids ▸ hb), List.getElem?_set_self (h.timestamps ▸ hb)⟩
  others _ _ hkb := ⟨List.getElem?_set_ne hkb.symm, List.getElem?_set_ne hkb.symm⟩

/-- A batch that is written to leaves the others as they are. -/
theorem Sound.written {b : Nat} (h : m.Sound) (hb : b < m.objects.length)
    (hobject : m.object b = .owning b) {es : Array Event}
    (hsize : (es.size : Int) ≤ Allocator.maxColumn) :
    (m.written b es).Sound ∧ (m.written b es).batches = m.batches.set b (live es) := by
  have hw := h.writes_written hb hsize
  refine ⟨⟨?_, ?_, h.owned, fun k hk => hw.paired h (Or.inl hk)⟩, List.ext_getElem? fun k => ?_⟩
  · exact (List.length_set ..).trans h.ids
  · exact (List.length_set ..).trans h.timestamps
  · rw [getElem?_batches]
    show m.objects[k]?.map (m.written b es).read = (m.batches.set b (live es))[k]?
    by_cases hkb : k = b
    · subst hkb
      have hat : m.objects[k]? = some (.owning k) := by
        unfold Memory.object at hobject
        rw [List.getElem?_eq_getElem hb] at hobject ⊢
        exact congrArg some hobject
      rw [List.getElem?_set_self (by simpa [batches] using hb), hat, Option.map_some,
        hw.holds.read]
    · rw [List.getElem?_set_ne (Ne.symm hkb), getElem?_batches]
      cases hat : m.objects[k]? with
      | none => rfl
      | some o => exact congrArg some (hw.read_eq h hat hkb)

/-- A write is made in both columns or in neither. -/
theorem Sound.agrees_set (h : m.Sound) (b : Nat) (i : Int64) (e : Event) :
    m.Agrees (.set b i e) := by
  cases h.standing b with
  | gone hobject =>
    have hstep : m.step (.set b i e) = (m, .stopped .crash) := by
      unfold step
      simp only [hobject, Object.gone, put?_none]
    have hanswer : m.answer (.set b i e) = (m.batches, .stopped .crash) := by
      unfold answer
      simp only [batch_of_gone hobject, Batch.set]
    exact .of_eq hstep hanswer h rfl
  | held es hlt hobject hes =>
    by_cases hi : 0 ≤ i.toInt ∧ i.toInt < es.size
    · have hstep : m.step (.set b i e) =
          (m.written b (es.setIfInBounds i.toInt.toNat e), .done) := by
        unfold step
        simp only [hobject, Object.owning, put?_map hes.ids, put?_map hes.timestamps, if_pos hi]
        rfl
      have hanswer : m.answer (.set b i e) =
          (m.batches.set b (live (es.setIfInBounds i.toInt.toNat e)), .done) := by
        unfold answer
        simp only [hes.batch hobject, Batch.set, if_pos hi]
      have hsize : ((es.setIfInBounds i.toInt.toNat e).size : Int) ≤ Allocator.maxColumn := by
        rw [Array.size_setIfInBounds]
        exact hes.addressed
      obtain ⟨hsound, hbatches⟩ := h.written hlt hobject hsize
      exact .of_eq hstep hanswer hsound hbatches
    · -- the first write is out of range as the second would be
      have hstep : m.step (.set b i e) = (m, .stopped .crash) := by
        unfold step
        simp only [hobject, Object.owning, put?_map hes.ids, if_neg hi]
      have hanswer : m.answer (.set b i e) = (m.batches, .stopped .crash) := by
        unfold answer
        simp only [hes.batch hobject, Batch.set, if_neg hi]
      exact .of_eq hstep hanswer h rfl

/-! ### Reading events and ranges -/

/-- Reading a column of events reads the events. -/
theorem element?_map {α : Type} {heap : List (Array α)} {k : Nat} {es : Array Event}
    {field : Event → α} (h : heap[k]? = some (es.map field)) (i : Int64) :
    element? heap (some k) i = ((live es).event i).map field := by
  unfold element? Batch.event
  rw [column_of_getElem? h, Array.getElem?_map]
  split_ifs <;> rfl

theorem element?_none {α : Type} (heap : List (Array α)) (i : Int64) :
    element? heap none i = none := ite_self none

/-- An event is read from both columns or from neither. -/
theorem Sound.agrees_event (h : m.Sound) (b : Nat) (i : Int64) : m.Agrees (.event b i) := by
  cases h.standing b with
  | gone hobject =>
    have hstep : m.step (.event b i) = (m, .stopped .crash) := by
      unfold step
      simp only [hobject, Object.gone, element?_none]
    have hanswer : m.answer (.event b i) = (m.batches, .stopped .crash) := by
      unfold answer
      simp only [batch_of_gone hobject, Batch.event, Batch.events, Array.getElem?_empty, ite_self,
        Option.elim_none]
    exact .of_eq hstep hanswer h rfl
  | held es hlt hobject hes =>
    cases hi : (live es).event i with
    | none =>
      have hstep : m.step (.event b i) = (m, .stopped .crash) := by
        unfold step
        simp only [hobject, Object.owning, element?_map hes.ids, hi, Option.map_none]
      have hanswer : m.answer (.event b i) = (m.batches, .stopped .crash) := by
        unfold answer
        simp only [hes.batch hobject, hi, Option.elim_none]
      exact .of_eq hstep hanswer h rfl
    | some e =>
      have hstep : m.step (.event b i) = (m, .event e) := by
        unfold step
        simp only [hobject, Object.owning, element?_map hes.ids, element?_map hes.timestamps, hi,
          Option.map_some]
      have hanswer : m.answer (.event b i) = (m.batches, .event e) := by
        unfold answer
        simp only [hes.batch hobject, hi, Option.elim_some]
      exact .of_eq hstep hanswer h rfl

/-- A range of a column of events is a range of the events. -/
theorem cut?_map {α : Type} {heap : List (Array α)} {k : Nat} {es : Array Event}
    {field : Event → α} (h : heap[k]? = some (es.map field)) (offset length : Int64) :
    cut? heap (some k) offset (offset + length) =
      ((live es).range offset length).map fun fs => fs.map field := by
  unfold cut? Batch.range
  simp only [column_of_getElem? h, Array.size_map]
  split_ifs
  · exact congrArg some Array.map_extract.symm
  · rfl

/-- A view that has been taken is no batch. -/
theorem Sound.viewed (h : m.Sound) (v : View) :
    Sound { m with views := m.views ++ [v] } where
  ids := h.ids
  timestamps := h.timestamps
  owned := h.owned
  paired k hk := by
    obtain ⟨es, hes⟩ := h.paired k hk
    exact ⟨es, hes.addressed, hes.ids, hes.timestamps⟩

/-- A range is cut out of both columns or of neither. -/
theorem Sound.agrees_slice (h : m.Sound) (b : Nat) (offset length : Int64) :
    m.Agrees (.slice b offset length) := by
  cases h.standing b with
  | gone hobject =>
    have hstep : m.step (.slice b offset length) =
        ({ m with views := m.views ++ [⟨none, none, 0, 0⟩] }, .columns .empty) := by
      unfold step
      simp only [hobject, Object.gone, if_pos]
    have hanswer : m.answer (.slice b offset length) = (m.batches, .columns .empty) := by
      unfold answer
      simp only [batch_of_gone hobject]
      rfl
    exact .of_eq hstep hanswer (h.viewed _) rfl
  | held es hlt hobject hes =>
    cases hrange : (live es).range offset length with
    | none =>
      have hstep : m.step (.slice b offset length) = (m, .stopped .crash) := by
        unfold step
        simp [hobject, Object.owning, cut?_map hes.ids, hrange]
      have hanswer : m.answer (.slice b offset length) = (m.batches, .stopped .crash) := by
        unfold answer
        simp only [hes.batch hobject, Batch.slice, hrange, Option.map_none, Option.elim_none]
      exact .of_eq hstep hanswer h rfl
    | some fs =>
      have hstep : m.step (.slice b offset length) =
          ({ m with
              views := m.views ++
                [⟨some b, some b, offset.toInt.toNat, (offset + length).toInt.toNat⟩] },
            .columns (Columns.ofEvents fs.toList)) := by
        unfold step
        simp [hobject, Object.owning, cut?_map hes.ids, cut?_map hes.timestamps, hrange,
          Columns.ofEvents]
      have hanswer : m.answer (.slice b offset length) =
          (m.batches, .columns (Columns.ofEvents fs.toList)) := by
        unfold answer
        simp only [hes.batch hobject, Batch.slice, hrange, Option.map_some, Option.elim_some]
      exact .of_eq hstep hanswer (h.viewed _) rfl

/-! ### Releasing -/

/-- Releasing one batch leaves the columns of all where they are. -/
theorem Sound.agrees_release (h : m.Sound) (b : Nat) : m.Agrees (.release b) := by
  cases h.standing b with
  | gone hobject =>
    have hstep : m.step (.release b) = (m, .done) := by
      unfold step
      simp only [hobject, Object.gone, if_pos]
    refine .of_eq hstep rfl h (List.ext_getElem? fun k => ?_)
    rw [List.getElem?_set]
    split_ifs with hkb hlt
    · subst hkb
      have hat := batch_of_gone hobject
      rw [batch_eq, List.getElem?_eq_getElem hlt, Option.getD_some] at hat
      rw [List.getElem?_eq_getElem hlt, hat]
      rfl
    · exact hkb ▸ List.getElem?_eq_none (by omega)
    · rfl
  | held es hlt hobject hes =>
    have hstep : m.step (.release b) = ({ m with objects := m.objects.set b .gone }, .done) := by
      unfold step
      simp [hobject, Object.owning]
    refine .of_eq hstep rfl ⟨?_, ?_, fun k o ho => ?_, fun k hk => ?_⟩ ?_
    · exact h.ids.trans (List.length_set ..).symm
    · exact h.timestamps.trans (List.length_set ..).symm
    · rw [List.getElem?_set] at ho
      split_ifs at ho with hkb
      · exact Or.inl (Option.some.inj ho).symm
      · exact h.owned k o ho
    · obtain ⟨es, hes⟩ := h.paired k (by simpa using hk)
      exact ⟨es, hes.addressed, hes.ids, hes.timestamps⟩
    · unfold batches
      rw [List.map_set]
      rfl

/-! ### Every operation -/

/-- **An operation in memory is the one on values**, and memory stays sound. -/
theorem Sound.agrees (h : m.Sound) (op : Op) : m.Agrees op := by
  cases op with
  | new a count => exact h.agrees_new a count
  | fromSlices ids timestamps => exact h.agrees_fromSlices ids timestamps
  | amplify b factor a offset => exact h.agrees_amplify b factor a offset
  | set b i e => exact h.agrees_set b i e
  | event b i => exact h.agrees_event b i
  | slice b offset length => exact h.agrees_slice b offset length
  | release b => exact h.agrees_release b

/-- Memory stays sound for as long as it is worked on. -/
theorem Sound.run (h : m.Sound) (ops : List Op) : (m.run ops).Sound := by
  induction ops generalizing m with
  | nil => exact h
  | cons op ops ih => exact ih (h.agrees op).sound

/-- A request that is not granted takes no memory. -/
theorem grant_stopped {granted : Except Stop Batch} {ids : Array Int64}
    {timestamps : Array Int32} {s : Stop}
    (h : (m.grant granted ids timestamps).2 = .stopped s) :
    (m.grant granted ids timestamps).1 = m := by
  cases granted with
  | error _ => rfl
  | ok b => cases h

/-- **What fails or crashes has written nothing**: when the write to the second column would be out
of range, so was the one to the first. -/
theorem Sound.step_stopped (h : m.Sound) {op : Op} {s : Stop}
    (hs : (m.step op).2 = .stopped s) : (m.step op).1 = m := by
  cases op with
  | new a count => exact grant_stopped hs
  | fromSlices ids timestamps => exact grant_stopped hs
  | amplify b factor a offset => exact grant_stopped hs
  | set b i e =>
    unfold step at hs ⊢
    cases h.standing b with
    | gone hobject => simp only [hobject, Object.gone, put?_none]
    | held es hlt hobject hes =>
      simp only [hobject, Object.owning, put?_map hes.ids, put?_map hes.timestamps] at hs ⊢
      by_cases hi : 0 ≤ i.toInt ∧ i.toInt < es.size
      · simp only [if_pos hi] at hs
        cases hs
      · simp only [if_neg hi]
  | event b i =>
    simp only [step]
    split <;> rfl
  | slice b offset length =>
    simp only [step] at hs ⊢
    split at hs
    · cases hs
    · next hreleased =>
      rw [if_neg hreleased]
      split at hs
      · cases hs
      · rfl
  | release b =>
    simp only [step] at hs
    split at hs <;> cases hs

end Memory

end DetectorStream.Batch
