import DetectorStream.FlatBuffer.Builder
import DetectorStream.Proofs.FlatBuffer.Reading

/-!
# What a builder writes

Whatever is written goes in front of what is there, with as much padding as its alignment takes. So
each step of a builder is an equation for its octets, and the room it asked for never exceeds what it
has written by more than a few octets: only the last step decides whether the memory is large enough.

* `dvd_add_padding`, `padding_eq_zero`: what padding does.
* `gigabyte_le_reach`, `reach_lt`: how large memory gets.
* **`Built`**: a builder holds octets and needs little room beyond them; one lemma for each step.
* `TableBuilt`: the same for a table, with its fields.
* **`Built.finish`**: the octets of a finished buffer, and the room that it needs.
-/

namespace DetectorStream.FlatBuffer

open LittleEndian (put)

variable {width n k fill capacity : Nat} {bs : Bytes}

/-! ## Padding -/

@[simp] theorem length_zeros (n : Nat) : (zeros n).length = n := List.length_replicate

theorem padding_eq_zero (h : width ∣ n) : padding width n = 0 := by
  unfold padding
  rw [Nat.mod_eq_zero_of_dvd h, Nat.sub_zero, Nat.mod_self]

theorem padding_lt (hw : 0 < width) (n : Nat) : padding width n < width := Nat.mod_lt _ hw

/-- Padding fills up to a multiple. -/
theorem dvd_add_padding (hw : 0 < width) (n : Nat) : width ∣ n + padding width n := by
  unfold padding
  have hlt := Nat.mod_lt n hw
  rcases Nat.eq_zero_or_pos (n % width) with hzero | hpos
  · rw [hzero, Nat.sub_zero, Nat.mod_self, Nat.add_zero]
    exact Nat.dvd_of_mod_eq_zero hzero
  · rw [Nat.mod_eq_of_lt (by omega)]
    refine ⟨n / width + 1, ?_⟩
    have hdiv := Nat.div_add_mod n width
    rw [Nat.mul_add, Nat.mul_one]
    omega

/-! ## Memory -/

/-- The memory of a buffer can grow to a gigabyte at least. -/
theorem gigabyte_le_reach (capacity : Nat) : 2 ^ 30 ≤ reach capacity := by
  fun_induction reach capacity with
  | case1 capacity h => exact h
  | case2 capacity h ih => exact ih

/-- Memory that is smaller at first stays below two gigabytes. -/
theorem reach_lt (h : capacity < 2 ^ 31) : reach capacity < 2 ^ 31 := by
  fun_induction reach capacity with
  | case1 capacity hlarge => exact h
  | case2 capacity hsmall ih => exact ih (by omega)

/-! ## Builders -/

/-- **The builder holds the octets.** Something of `alignment` octets was aligned, and there is room
for at most `ahead` octets more. -/
structure Built (b : Builder) (bs : Bytes) (alignment ahead : Nat) : Prop where
  octets_eq : b.octets = bs
  alignment_eq : b.alignment = alignment
  room_le : b.room ≤ bs.length + ahead

namespace Built

variable {b : Builder} {alignment ahead : Nat}

theorem nothing : Built {} [] 1 0 := ⟨rfl, rfl, Nat.le_refl 0⟩

theorem size_eq (h : Built b bs alignment ahead) : b.size = bs.length := by
  rw [b.size_eq, h.octets_eq]

theorem mono (h : Built b bs alignment ahead) (hk : ahead ≤ k) : Built b bs alignment k :=
  ⟨h.octets_eq, h.alignment_eq, Nat.le_trans h.room_le (Nat.add_le_add_left hk _)⟩

theorem push (h : Built b bs alignment ahead) (xs : Bytes) :
    Built (b.push xs) (xs ++ bs) alignment (ahead - xs.length) := by
  refine ⟨?_, h.alignment_eq, ?_⟩
  · show xs ++ b.octets = _
    rw [h.octets_eq]
  · have hroom := h.room_le
    show b.room ≤ _
    rw [List.length_append]
    omega

theorem prepare (h : Built b bs alignment ahead) (extra : Nat)
    (hfill : padding width (bs.length + extra) = fill) :
    Built (b.prepare width extra) (zeros fill ++ bs) (max alignment width)
      (max (ahead - fill) (width + extra)) := by
  have hroom := h.room_le
  rw [← h.size_eq] at hfill hroom
  subst hfill
  refine ⟨?_, ?_, ?_⟩
  · show zeros _ ++ b.octets = _
    rw [h.octets_eq]
  · show max b.alignment width = _
    rw [h.alignment_eq]
  · show max b.room _ ≤ _
    rw [List.length_append, length_zeros, ← h.size_eq]
    omega

/-- Nothing is filled up where the octets are a multiple already. -/
theorem prepare_aligned (h : Built b bs alignment ahead) (width extra : Nat)
    (hw : width ∣ bs.length + extra) :
    Built (b.prepare width extra) bs (max alignment width) (max ahead (width + extra)) :=
  h.prepare extra (padding_eq_zero hw)

theorem word (h : Built b bs alignment ahead) (hw : width ∣ bs.length) (n : Nat) :
    Built (b.word width n) (put width n ++ bs) (max alignment width) (ahead - width) := by
  have hword := (h.prepare_aligned width 0 hw).push (put width n)
  refine hword.mono ?_
  rw [LittleEndian.length_put]
  omega

theorem reference (h : Built b bs alignment ahead) (hw : 4 ∣ bs.length) (place : Nat) :
    Built (b.reference place) (put 4 (bs.length + 4 - place) ++ bs) (max alignment 4)
      (ahead - 4) := by
  have hprepared := h.prepare_aligned 4 0 hw
  have hreference := hprepared.push (put 4 (bs.length + 4 - place))
  unfold Builder.reference
  simp only [hprepared.size_eq]
  refine hreference.mono ?_
  rw [LittleEndian.length_put]
  omega

theorem text (h : Built b bs alignment ahead) (t : Text)
    (hfill : padding 4 (bs.length + (t.length + 1)) = fill) :
    Built (b.text t) (put 4 t.length ++ (t ++ ([0] ++ (zeros fill ++ bs)))) (max alignment 4)
      (ahead - (t.length + 5)) := by
  have htext := (((h.prepare _ hfill).push [0]).push t).push (put 4 t.length)
  refine htext.mono ?_
  rw [LittleEndian.length_put, List.length_singleton]
  omega

/-- A run of numbers that are aligned already. -/
theorem run (h : Built b bs alignment ahead) (width : Nat) (ha : width ≤ alignment)
    (hw : width ∣ bs.length) (ns : List Nat) :
    Built (ns.foldr (fun n b => b.word width n) b) (ns.flatMap (put width) ++ bs) alignment
      (ahead - ns.length * width) := by
  induction ns with
  | nil => exact h.mono (by simp)
  | cons n ns ih =>
    have hdvd : width ∣ (ns.flatMap (put width) ++ bs).length := by
      rw [List.length_append, length_flatMap_put]
      exact Nat.dvd_add (Nat.dvd_mul_left _ _) hw
    have hword := ih.word hdvd n
    rw [Nat.max_eq_left ha] at hword
    rw [List.foldr_cons, List.flatMap_cons, List.append_assoc, List.length_cons, Nat.succ_mul,
      Nat.sub_add_eq]
    exact hword

/-- A run of numbers behind its length. -/
theorem words (h : Built b bs alignment ahead) (hahead : ahead ≤ 4) (h4 : 4 ∣ bs.length)
    (hw : 4 ∣ width) (hpos : 0 < width) (ns : List Nat)
    (hfill : padding width (bs.length + width * ns.length) = fill) :
    Built (b.words width ns) (put 4 ns.length ++ (ns.flatMap (put width) ++ (zeros fill ++ bs)))
      (max alignment width) (width - 4) := by
  have h4le : 4 ≤ width := Nat.le_of_dvd hpos hw
  have hfirst := h.prepare_aligned 4 (width * ns.length)
    (Nat.dvd_add h4 (Dvd.dvd.mul_right hw _))
  have hsecond := hfirst.prepare _ hfill
  have hdvd : width ∣ (zeros fill ++ bs).length := by
    have hmultiple := dvd_add_padding hpos (bs.length + width * ns.length)
    rw [hfill, Nat.add_right_comm] at hmultiple
    rw [List.length_append, length_zeros, Nat.add_comm]
    exact (Nat.dvd_add_left (Nat.dvd_mul_right _ _)).mp hmultiple
  have halignment : max (max alignment 4) width = max alignment width := by omega
  rw [halignment] at hsecond
  have hwords := (hsecond.run width (Nat.le_max_right _ _) hdvd ns).push (put 4 ns.length)
  refine hwords.mono ?_
  rw [LittleEndian.length_put, Nat.mul_comm ns.length]
  omega

/-- **A finished buffer**: the place of the table, the tag and what was built, filled up to a multiple
of eight. It needs memory for eight octets more than it has, and one. -/
theorem finish (h : Built b bs 8 ahead) (hahead : ahead ≤ 16) {tag : Bytes} (htag : tag.length = 4)
    (hfill : padding 8 (bs.length + 8) = fill) (root : Nat) :
    (b.finish root tag).octets =
        put 4 (fill + bs.length + 8 - root) ++ (tag ++ (zeros fill ++ bs)) ∧
      (b.finish root tag).room = fill + bs.length + 16 := by
  have hroom := h.room_le
  have hmultiple := dvd_add_padding (by decide : 0 < 8) (bs.length + 8)
  rw [hfill] at hmultiple
  have hfirst := (h.prepare _ hfill).push tag
  have hlength : (tag ++ (zeros fill ++ bs)).length = fill + bs.length + 4 := by
    rw [List.length_append, List.length_append, length_zeros, htag]
    omega
  have hsecond := hfirst.prepare_aligned 8 4 (by omega)
  have hreference := hsecond.reference (by omega) root
  unfold Builder.finish
  simp only [h.alignment_eq, hfirst.alignment_eq, htag, Nat.max_self]
  constructor
  · rw [hreference.octets_eq, hlength]
  · -- the room for the tag and the place of the table is the most there ever was
    have hsize : ((b.prepare 8 (4 + 4)).push tag).size = fill + bs.length + 4 := by
      rw [hfirst.size_eq, hlength]
    have hpadded : padding 8 (fill + bs.length + 4 + 4) = 0 := padding_eq_zero (by omega)
    have haligned : padding 4 (fill + bs.length + 4) = 0 := padding_eq_zero (by omega)
    have hprepared : (((b.prepare 8 (4 + 4)).push tag).prepare 8 4).size =
        fill + bs.length + 4 := by
      rw [hsecond.size_eq, hlength]
    have hroots : ((((b.prepare 8 (4 + 4)).push tag).prepare 8 4).reference root).room =
        max (max (max b.room (b.size + padding 8 (b.size + 8) + 8 + 8))
          (((b.prepare 8 (4 + 4)).push tag).size +
            padding 8 (((b.prepare 8 (4 + 4)).push tag).size + 4) + 8 + 4))
          ((((b.prepare 8 (4 + 4)).push tag).prepare 8 4).size +
            padding 4 (((b.prepare 8 (4 + 4)).push tag).prepare 8 4).size + 4 + 0) := rfl
    rw [hroots, hprepared, hsize, h.size_eq, hfill, hpadded, haligned]
    omega

end Built

/-! ## Tables -/

/-- **The table under construction** ends at `start` and has its fields at `slots`. -/
structure TableBuilt (t : TableBuilder) (bs : Bytes) (alignment ahead start : Nat)
    (slots : List Nat) : Prop where
  built : Built t.buffer bs alignment ahead
  start_eq : t.start = start
  slots_eq : t.slots = slots

theorem Built.table {b : Builder} {alignment ahead : Nat} (h : Built b bs alignment ahead)
    (count : Nat) :
    TableBuilt (b.table count) bs alignment ahead bs.length (List.replicate count 0) :=
  ⟨h, h.size_eq, rfl⟩

namespace TableBuilt

variable {t : TableBuilder} {alignment ahead start : Nat} {slots : List Nat}

theorem mono (h : TableBuilt t bs alignment ahead start slots) (hk : ahead ≤ k) :
    TableBuilt t bs alignment k start slots :=
  ⟨h.built.mono hk, h.start_eq, h.slots_eq⟩

/-- A number that is the default is left out. -/
theorem absent (h : TableBuilt t bs alignment ahead start slots) {default : Nat}
    (hn : n = default) (slot width : Nat) :
    TableBuilt (t.number slot width n default) bs alignment ahead start slots := by
  rw [TableBuilder.number, if_pos hn]
  exact h

/-- Any other number is aligned and written. -/
theorem number (h : TableBuilt t bs alignment ahead start slots) {default : Nat}
    (hn : n ≠ default) (slot : Nat) (hfill : padding width bs.length = fill) :
    TableBuilt (t.number slot width n default) (put width n ++ (zeros fill ++ bs))
      (max alignment width) (ahead - fill - width) start
      (slots.set slot (width + (fill + bs.length))) := by
  have hword : Built (t.buffer.word width n) (put width n ++ (zeros fill ++ bs))
      (max alignment width) (ahead - fill - width) := by
    refine ((h.built.prepare 0 hfill).push (put width n)).mono ?_
    rw [LittleEndian.length_put]
    omega
  rw [TableBuilder.number, if_neg hn]
  refine ⟨hword, h.start_eq, ?_⟩
  show t.slots.set slot (t.buffer.word width n).size = _
  rw [hword.size_eq, h.slots_eq, List.length_append, List.length_append, LittleEndian.length_put,
    length_zeros]

/-- A reference is the distance from where it stands to what it refers to. -/
theorem reference (h : TableBuilt t bs alignment ahead start slots) {place distance : Nat}
    (hplace : place ≠ 0) (slot : Nat) (hw : 4 ∣ bs.length)
    (hdistance : bs.length + 4 - place = distance) :
    TableBuilt (t.reference slot place) (put 4 distance ++ bs) (max alignment 4) (ahead - 4) start
      (slots.set slot (4 + bs.length)) := by
  subst hdistance
  have hreference := h.built.reference hw place
  rw [TableBuilder.reference, if_neg hplace]
  refine ⟨hreference, h.start_eq, ?_⟩
  show t.slots.set slot (t.buffer.reference place).size = _
  rw [hreference.size_eq, h.slots_eq, List.length_append, LittleEndian.length_put]

/-- A table that is closed has the list of its field offsets in front of it. -/
theorem close (h : TableBuilt t bs alignment ahead start slots) (ha : 4 ≤ alignment)
    (hahead : ahead ≤ 4) (hfill : padding 4 bs.length = fill) :
    let place := fill + bs.length + 4
    let list := t.offsets place
    t.close.2 = place ∧
      Built t.close.1 (list.flatMap (put 2) ++ (put 4 (2 * list.length) ++ (zeros fill ++ bs)))
        alignment 0 := by
  intro place list
  have hprepared := h.built.prepare 0 hfill
  rw [Nat.max_eq_left ha] at hprepared
  have hlength : (zeros fill ++ bs).length = fill + bs.length := by
    rw [List.length_append, length_zeros]
  have hplace : (t.buffer.prepare 4 0).size + 4 = place := by
    rw [hprepared.size_eq, hlength]
  have hmultiple := dvd_add_padding (by decide : 0 < 4) bs.length
  rw [hfill] at hmultiple
  have hdistance := hprepared.push (put 4 (2 * list.length))
  have hlist := hdistance.run 2 (by omega)
    (by rw [List.length_append, LittleEndian.length_put, hlength]; omega) list
  refine ⟨hplace, ?_⟩
  unfold TableBuilder.close
  simp only [hplace]
  refine hlist.mono ?_
  rw [LittleEndian.length_put]
  omega

end TableBuilt

end DetectorStream.FlatBuffer
