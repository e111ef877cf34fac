import DetectorStream.Octets.LittleEndian
import DetectorStream.Octets.Stream
import DetectorStream.Proofs.FlatBuffer.Reading

/-!
# Octets read and written

Reading takes octets off the front of a stream and leaves the rest, so a successful read says what
the stream began with. Words are read as they are written, and what was read can be written again.

* `Stream.readFull_append`, `Stream.readFull_eq_ok`: a read gives the octets that the stream begins
  with, and nothing else.
* **`LittleEndian.put_get`**: writing the number that octets stand for gives the octets.
* **`LittleEndian.words_eq`**: a run of words is read without a loss.
-/

namespace DetectorStream

namespace Stream

variable {s s' : Stream} {head : Bytes} {n : Nat}

/-- Octets that the stream begins with can be read. -/
theorem readFull_append (s : Stream) (head rest : Bytes) :
    ({ s with bytes := head ++ rest } : Stream).readFull head.length =
      .ok (head, { s with bytes := rest }) := by
  unfold readFull
  simp only [List.take_left, Nat.lt_irrefl, if_false, List.drop_left]

/-- What was read is what the stream begins with. -/
theorem readFull_eq_ok (h : s.readFull n = .ok (head, s')) :
    head.length = n ∧ s.bytes = head ++ s'.bytes ∧ s' = { s with bytes := s'.bytes } := by
  unfold readFull at h
  simp only at h
  split at h
  · cases h
  · rename_i hlength
    cases h
    refine ⟨?_, (List.take_append_drop n s.bytes).symm, rfl⟩
    have hle := List.length_take_le n s.bytes
    omega

end Stream

namespace LittleEndian

theorem get_lt (bs : Bytes) : get bs < 256 ^ bs.length := by
  induction bs with
  | nil => decide
  | cons b t ih =>
    have hb := b.toNat_lt
    rw [get, List.length_cons, Nat.pow_succ]
    omega

/-- **The number that octets stand for is written as these octets.** -/
theorem put_get (bs : Bytes) : put bs.length (get bs) = bs := by
  induction bs with
  | nil => rfl
  | cons b t ih =>
    have hb := b.toNat_lt
    have hhead : (b.toNat + 256 * get t).toUInt8 = b := by
      rw [← UInt8.toNat_inj, Nat.toUInt8_eq, UInt8.toNat_ofNat']
      omega
    have htail : (b.toNat + 256 * get t) / 256 = get t := by omega
    rw [List.length_cons, get, put, hhead, htail, ih]

/-- Words that are read onto others follow them. -/
theorem wordsOnto_eq {width count : Nat} (acc : List Nat) {bs : Bytes}
    (h : count * width ≤ bs.length) :
    ∃ ws, wordsOnto width count acc bs = (acc.reverse ++ ws, bs.drop (count * width)) ∧
      ws.length = count ∧ (∀ w ∈ ws, w < 256 ^ width) ∧
      ws.flatMap (put width) = bs.take (count * width) := by
  induction count generalizing acc bs with
  | zero => exact ⟨[], by simp [wordsOnto]⟩
  | succ n ih =>
    rw [Nat.succ_mul] at h
    have hlength : (bs.take width).length = width := List.length_take_of_le (by omega)
    have hrest : n * width ≤ (bs.drop width).length := by
      rw [List.length_drop]
      omega
    obtain ⟨ws, heq, hcount, hfit, hflat⟩ := ih (get (bs.take width) :: acc) hrest
    refine ⟨get (bs.take width) :: ws, ?_, by rw [List.length_cons, hcount], ?_, ?_⟩
    · rw [wordsOnto, heq, List.reverse_cons, List.append_assoc, List.drop_drop, Nat.succ_mul,
        Nat.add_comm width]
      rfl
    · intro w hw
      rcases List.mem_cons.mp hw with rfl | hw
      · have hlt := get_lt (bs.take width)
        rwa [hlength] at hlt
      · exact hfit w hw
    · have hput := put_get (bs.take width)
      rw [hlength] at hput
      rw [List.flatMap_cons, hput, hflat, Nat.succ_mul, Nat.add_comm (n * width), List.take_add]

/-- **A run of words is read without a loss**: as many as were asked for, each within its width, and
written again they are the octets they were read from. -/
theorem words_eq {width count : Nat} {bs : Bytes} (h : bs.length = count * width) :
    (words width count bs).1.length = count ∧ (∀ w ∈ (words width count bs).1, w < 256 ^ width) ∧
      (words width count bs).1.flatMap (put width) = bs := by
  obtain ⟨ws, heq, hcount, hfit, hflat⟩ := wordsOnto_eq [] (Nat.le_of_eq h.symm)
  rw [← h, List.take_length] at hflat
  unfold words
  rw [heq]
  exact ⟨hcount, hfit, hflat⟩

/-- The words that octets were written from are read back. -/
theorem words_flatMap {width : Nat} {ws : List Nat} (h : ∀ w ∈ ws, w < 256 ^ width) :
    (words width ws.length (ws.flatMap (put width))).1 = ws := by
  have hwords := FlatBuffer.wordsOnto_flatMap h [] []
  rw [List.append_nil] at hwords
  unfold words
  rw [hwords]
  rfl

end LittleEndian

end DetectorStream
