import DetectorStream.FlatBuffer.Table
import Mathlib.Tactic.Ring

/-!
# Reading a flat buffer

A read finds what was written at a place. `Holds buf place bs` says that the octets `bs` stand at
`place`; what stands in a concatenation is found part by part, and each kind of read gives back what
stands where it reads.

* `Holds.word?_eq`, `Holds.words_eq`: numbers and runs of numbers.
* **`Cursor.wordsOnto?_eq`**: in a buffer whose places do not reach the wrap, a run is read exactly if
  all of it stands in the buffer.
* **`Table.slice?_eq`**: octets are read exactly if all of them stand in the memory.
* `Shaped`: a table whose list of field offsets stands at a place.
* **`Shaped.number?_eq`, `Shaped.number?_absent`, `Shaped.vector?_eq`**: the fields of such a table.
-/

namespace DetectorStream.FlatBuffer

open LittleEndian (put get)

variable {buf xs ys bs : Bytes} {p n w : Nat}

/-! ## Octets at a place -/

/-- **The octets stand at the place.** -/
def Holds (buf : Bytes) (place : Nat) (bs : Bytes) : Prop :=
  ∃ before after, buf = before ++ (bs ++ after) ∧ before.length = place

theorem Holds.whole (buf : Bytes) : Holds buf 0 buf :=
  ⟨[], [], (List.append_nil buf).symm, rfl⟩

theorem Holds.left (h : Holds buf p (xs ++ ys)) : Holds buf p xs := by
  obtain ⟨before, after, rfl, hp⟩ := h
  exact ⟨before, ys ++ after, by rw [List.append_assoc], hp⟩

theorem Holds.right (h : Holds buf p (xs ++ ys)) : Holds buf (p + xs.length) ys := by
  obtain ⟨before, after, rfl, hp⟩ := h
  refine ⟨before ++ xs, after, ?_, ?_⟩
  · simp only [List.append_assoc]
  · rw [List.length_append, hp]

theorem Holds.le_length (h : Holds buf p bs) : p + bs.length ≤ buf.length := by
  obtain ⟨before, after, rfl, rfl⟩ := h
  simp only [List.length_append]
  omega

theorem Holds.drop_eq (h : Holds buf p bs) : ∃ after, buf.drop p = bs ++ after := by
  obtain ⟨before, after, rfl, rfl⟩ := h
  exact ⟨after, List.drop_left⟩

theorem Holds.take_drop (h : Holds buf p bs) : (buf.drop p).take bs.length = bs := by
  obtain ⟨after, hdrop⟩ := h.drop_eq
  rw [hdrop, List.take_left]

/-- What stands at a place before the end of a shorter buffer stands there. -/
theorem Holds.of_head {head : Bytes} (h : Holds buf p bs) (hhead : head <+: buf)
    (hend : p + bs.length ≤ head.length) : Holds head p bs := by
  obtain ⟨before, after, rfl, rfl⟩ := h
  rw [← List.append_assoc] at hhead
  obtain ⟨rest, hrest⟩ := List.prefix_of_prefix_length_le (List.prefix_append (before ++ bs) after)
    hhead (by rwa [List.length_append])
  exact ⟨before, rest, by rw [← hrest, List.append_assoc], rfl⟩

/-! ## Numbers -/

/-- A number that fits is read back. -/
theorem Holds.word?_eq (h : Holds buf p (put w n)) (hn : n < 256 ^ w) :
    word? buf w p = some n := by
  have htake : (buf.drop p).take w = put w n := by
    have h' := h.take_drop
    rwa [LittleEndian.length_put] at h'
  unfold word?
  simp only [htake, LittleEndian.length_put, Nat.lt_irrefl, if_false]
  rw [LittleEndian.get_put]
  exact congrArg some (Nat.mod_eq_of_lt hn)

/-- An entry of a run of numbers stands at its multiple of the width. -/
theorem Holds.entry {ns : List Nat} {i : Nat} (h : Holds buf p (ns.flatMap (put w)))
    (hi : ns[i]? = some n) : Holds buf (p + i * w) (put w n) := by
  induction ns generalizing p i with
  | nil => cases hi
  | cons m ns ih =>
    rw [List.flatMap_cons] at h
    cases i with
    | zero =>
      rw [List.getElem?_cons_zero, Option.some.injEq] at hi
      subst hi
      rw [Nat.zero_mul]
      exact h.left
    | succ i =>
      have hright := h.right
      rw [LittleEndian.length_put] at hright
      have hentry := ih hright hi
      rwa [Nat.add_assoc, Nat.add_comm w, ← Nat.succ_mul] at hentry

theorem wordsOnto_flatMap {ns : List Nat} (hns : ∀ n ∈ ns, n < 256 ^ w) (acc : List Nat)
    (rest : Bytes) :
    LittleEndian.wordsOnto w ns.length acc (ns.flatMap (put w) ++ rest) =
      (acc.reverse ++ ns, rest) := by
  induction ns generalizing acc with
  | nil => simp [LittleEndian.wordsOnto]
  | cons n ns ih =>
    have htake : (put w n ++ (ns.flatMap (put w) ++ rest)).take w = put w n :=
      List.take_left' (LittleEndian.length_put w n)
    have hdrop : (put w n ++ (ns.flatMap (put w) ++ rest)).drop w = ns.flatMap (put w) ++ rest :=
      List.drop_left' (LittleEndian.length_put w n)
    have hget : get (put w n) = n := by
      rw [LittleEndian.get_put]
      exact Nat.mod_eq_of_lt (hns n List.mem_cons_self)
    rw [List.length_cons, LittleEndian.wordsOnto, List.flatMap_cons, List.append_assoc, htake,
      hdrop, hget, ih fun m hm => hns m (List.mem_cons_of_mem n hm), List.reverse_cons,
      List.append_assoc]
    rfl

/-- A run of numbers that fit is read back. -/
theorem Holds.words_eq {ns : List Nat} (h : Holds buf p (ns.flatMap (put w)))
    (hns : ∀ n ∈ ns, n < 256 ^ w) : (LittleEndian.words w ns.length (buf.drop p)).1 = ns := by
  obtain ⟨after, hdrop⟩ := h.drop_eq
  unfold LittleEndian.words
  rw [hdrop, wordsOnto_flatMap hns]
  rfl

theorem length_flatMap_put (ns : List Nat) : (ns.flatMap (put w)).length = ns.length * w := by
  induction ns with
  | nil => simp
  | cons n ns ih =>
    rw [List.flatMap_cons, List.length_append, ih, LittleEndian.length_put, List.length_cons,
      Nat.succ_mul, Nat.add_comm]

/-! ## Runs and the wrap -/

theorem wrap_eq (h : n < 2 ^ 32) : wrap n = n := Nat.mod_eq_of_lt h

/-- A place that does not wrap is further on in the same octets. -/
theorem Cursor.rest_advance {c : Cursor buf} (h : c.place + n < 2 ^ 32) :
    (c.advance n).rest = c.rest.drop n := by
  have hnext : c.place + n < 0x100000000 := h
  simp only [Cursor.advance, hnext, if_true]

/-- **A run is read exactly if all of it stands in the buffer.** -/
theorem Cursor.wordsOnto?_eq (hbuf : buf.length < 2 ^ 32) (hw : 0 < w) (count : Nat)
    (acc : List Nat) (c : Cursor buf) :
    wordsOnto? w count acc c =
      if count * w ≤ c.rest.length then some (LittleEndian.wordsOnto w count acc c.rest).1
      else none := by
  induction count generalizing acc c with
  | zero =>
    rw [Nat.zero_mul, if_pos (Nat.zero_le _)]
    rfl
  | succ count ih =>
    have hlength : (c.rest.take w).length = min w c.rest.length := List.length_take
    rw [wordsOnto?, Cursor.word?, Nat.succ_mul]
    by_cases hshort : (c.rest.take w).length < w
    · simp only [if_pos hshort]
      rw [if_neg (by omega)]
    · -- the octets are there, so the next place is not behind the end of the buffer
      have hrest := congrArg List.length c.rest_eq
      rw [List.length_drop] at hrest
      have hnext : c.place + w < 2 ^ 32 := by omega
      simp only [if_neg hshort]
      rw [ih, rest_advance hnext, List.length_drop]
      by_cases hrun : count * w + w ≤ c.rest.length
      · rw [if_pos hrun, if_pos (by omega)]
        rfl
      · rw [if_neg hrun, if_neg (by omega)]

/-- **Octets are read exactly if all of them stand in the memory**, at places that do not wrap. -/
theorem Table.slice?_eq {t : Table} (hp : p < 2 ^ 32) (hn : n < 2 ^ 32) :
    t.slice? p n =
      if p + n < 2 ^ 32 ∧ p + n ≤ t.memory.length then some ((t.memory.drop p).take n)
      else none := by
  unfold Table.slice?
  simp only
  by_cases hwrap : p + n < 2 ^ 32
  · rw [wrap_eq hwrap, Nat.add_sub_cancel_left]
    simp only [Nat.le_add_right, hwrap, true_and]
  · -- an end that wraps comes before the start
    have hstop : wrap (p + n) < p := by
      unfold wrap
      omega
    rw [if_neg fun h => Nat.not_le.mpr hstop h.1, if_neg fun h => hwrap h.1]

/-! ## Tables -/

/-- **A table whose list of field offsets stands at a place of its buffer.** The list tells its own
size and that of the table before the offsets themselves. -/
structure Shaped (t : Table) (list : Nat) (size : Nat) (offsets : List Nat) : Prop where
  place_lt : t.place < 2 ^ 32
  list_le : list ≤ t.place
  holds_place : Holds t.buffer t.place (put 4 (t.place - list))
  holds_list : Holds t.buffer list (((4 + 2 * offsets.length) :: size :: offsets).flatMap (put 2))
  offsets_lt : ∀ o ∈ (4 + 2 * offsets.length) :: size :: offsets, o < 2 ^ 16
  list_end : list + (4 + 2 * offsets.length) < 2 ^ 32

variable {t : Table} {list size slot o : Nat} {offsets : List Nat}

theorem Shaped.layout?_eq (h : Shaped t list size offsets) : t.layout? = some list := by
  have hplace := h.place_lt
  have hle := h.list_le
  unfold Table.layout?
  rw [h.holds_place.word?_eq (by omega), Option.map_some]
  unfold wrap
  congr 1
  omega

/-- The offset of a field is the one in the list. -/
theorem Shaped.offset?_eq (h : Shaped t list size offsets) (ho : offsets[slot]? = some o) :
    t.offset? slot = some o := by
  have hend := h.list_end
  obtain ⟨hslot, -⟩ := List.getElem?_eq_some_iff.mp ho
  have hmem : o ∈ offsets := List.mem_of_getElem? ho
  have hlist : Holds t.buffer list (put 2 (4 + 2 * offsets.length)) := by
    have h0 := h.holds_list.entry (i := 0) rfl
    rwa [Nat.zero_mul] at h0
  have hentry : Holds t.buffer (list + (4 + 2 * slot)) (put 2 o) := by
    have hslot' := h.holds_list.entry (i := slot + 2) (by rw [← ho]; rfl)
    rwa [Nat.add_mul, Nat.add_comm (slot * 2), Nat.mul_comm slot] at hslot'
  have hsize : 4 + 2 * offsets.length < 2 ^ 16 := h.offsets_lt _ List.mem_cons_self
  have ho' : o < 2 ^ 16 :=
    h.offsets_lt o (List.mem_cons_of_mem _ (List.mem_cons_of_mem _ hmem))
  unfold Table.offset?
  simp only [h.layout?_eq, hlist.word?_eq (show _ < 256 ^ 2 by omega)]
  rw [if_pos (by omega), wrap_eq (by omega), hentry.word?_eq (by omega)]

theorem Shaped.field?_eq (h : Shaped t list size offsets) (ho : offsets[slot]? = some o)
    (h0 : o ≠ 0) (hlt : t.place + o < 2 ^ 32) : t.field? slot = some (some (t.place + o)) := by
  unfold Table.field?
  rw [h.offset?_eq ho, Option.map_some, if_neg h0, wrap_eq hlt]

/-- A number that is left out has its default. -/
theorem Shaped.number?_absent (h : Shaped t list size offsets) (ho : offsets[slot]? = some 0)
    (width default : Nat) : t.number? slot width default = some default := by
  have hfield : t.field? slot = some none := by
    unfold Table.field?
    rw [h.offset?_eq ho]
    rfl
  unfold Table.number?
  rw [hfield]

/-- A number in a field is read back. -/
theorem Shaped.number?_eq (h : Shaped t list size offsets) (ho : offsets[slot]? = some o)
    (h0 : o ≠ 0) (hlt : t.place + o < 2 ^ 32) (hn : Holds t.buffer (t.place + o) (put w n))
    (hfit : n < 256 ^ w) (default : Nat) : t.number? slot w default = some n := by
  unfold Table.number?
  rw [h.field?_eq ho h0 hlt]
  exact hn.word?_eq hfit

/-- The vector that a field refers to is found: its length, and where its elements start. -/
theorem Shaped.vector?_eq (h : Shaped t list size offsets) (ho : offsets[slot]? = some o)
    (h0 : o ≠ 0) {v : Nat} (hle : t.place + o ≤ v) (hv : v + 4 < 2 ^ 32)
    (href : Holds t.buffer (t.place + o) (put 4 (v - (t.place + o))))
    (hn : Holds t.buffer v (put 4 n)) (hfit : n < 2 ^ 32) :
    t.vector? slot = some (some (n, v + 4)) := by
  have hfollow : wrap (t.place + o + (v - (t.place + o))) = v := by
    rw [Nat.add_sub_cancel' hle]
    exact wrap_eq (by omega)
  unfold Table.vector? Table.vectorAt? follow?
  rw [h.field?_eq ho h0 (by omega)]
  simp only [href.word?_eq (show _ < 256 ^ 4 by omega), Option.map_some, hfollow,
    hn.word?_eq (show _ < 256 ^ 4 by omega), wrap_eq hv]

/-- **The text that a field refers to is a piece of the memory**, if all of it stands there. -/
theorem Shaped.text?_eq (h : Shaped t list size offsets) (ho : offsets[slot]? = some o)
    (h0 : o ≠ 0) {v : Nat} (hle : t.place + o ≤ v) (hend : v + 4 + n < 2 ^ 32)
    (href : Holds t.buffer (t.place + o) (put 4 (v - (t.place + o))))
    (hn : Holds t.buffer v (put 4 n)) :
    t.text? slot =
      if v + 4 + n ≤ t.memory.length then some (some ((t.memory.drop (v + 4)).take n))
      else none := by
  unfold Table.text?
  rw [h.vector?_eq ho h0 hle (by omega) href hn (by omega)]
  simp only
  rw [Table.slice?_eq (by omega) (by omega)]
  simp only [hend, true_and]
  split <;> rfl

/-- The run of numbers that a field refers to is read back. -/
theorem Shaped.words?_eq (h : Shaped t list size offsets) (ho : offsets[slot]? = some o)
    (h0 : o ≠ 0) {v : Nat} {ns : List Nat} (hle : t.place + o ≤ v)
    (hlt : t.buffer.length < 2 ^ 32)
    (href : Holds t.buffer (t.place + o) (put 4 (v - (t.place + o))))
    (hns : Holds t.buffer v (put 4 ns.length ++ ns.flatMap (put w)))
    (hw : 0 < w) (hfit : ∀ n ∈ ns, n < 256 ^ w) : t.words? slot w = some (some ns) := by
  have hend := hns.le_length
  rw [List.length_append, LittleEndian.length_put, length_flatMap_put] at hend
  have hlength : ns.length ≤ ns.length * w := Nat.le_mul_of_pos_right _ hw
  have hrun : Holds t.buffer (v + 4) (ns.flatMap (put w)) := by
    have hright := hns.right
    rwa [LittleEndian.length_put] at hright
  have hwords := hrun.words_eq hfit
  unfold LittleEndian.words at hwords
  unfold Table.words?
  rw [h.vector?_eq ho h0 hle (by omega) href hns.left (by omega)]
  simp only
  rw [Cursor.wordsOnto?_eq hlt hw, if_pos (by rw [List.length_drop]; omega), hwords]
  rfl

end DetectorStream.FlatBuffer
