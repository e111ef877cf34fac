import DetectorStream.Proofs.Source.Formats

/-!
# Counts that no column can address

A count goes through the rules of an allocator before anything is made, whether it was asked for or
stands in the header of an image. The rules look at the octets of the events, which must be a number
of sixty-four bits and keep to the limit; that a column of so many entries may be more than can be
addressed, far below that, is not among them. What they let through beyond it is a crash.

* `Batch.Has`: a batch with two columns of so many entries.
* `Nev.Declares`: octets that begin with a whole header.
* `Nev.decode_crash_iff`: a reader of images crashes over the count that a header declares.
* **`counts_end`**: how asking for a count ends, and how reading one does.
* `vast_counts_crash`: both crash over a count that no rule refuses.
-/

namespace DetectorStream

variable {a : Allocator} {s : Stream} {b : Batch} {n : Int}

/-- **Both columns of the batch have `n` entries**, and it has not been released. -/
structure Batch.Has (b : Batch) (n : Int) : Prop where
  live : b.isReleased = false
  ids : (b.columns.ids.length : Int) = n
  timestamps : (b.columns.timestamps.length : Int) = n

theorem Batch.has_live {es : Array Event} (h : (es.size : Int) = n) : (Batch.live es).Has n := by
  refine ⟨rfl, ?_, ?_⟩
  · simpa [columns, Columns.ofEvents, events] using h
  · simpa [columns, Columns.ofEvents, events] using h

/-- A request that is granted makes a batch of its size. -/
theorem Batch.has_of_new {count : Int64} (h : Batch.new a count = .ok b) : b.Has count.toInt := by
  obtain ⟨-, -, hsize⟩ := (Batch.new_answers a count).of_ok h
  cases b with
  | live es => exact Batch.has_live hsize
  | released =>
    unfold Batch.new at h
    split at h <;> cases h

namespace Nev

/-- **The octets begin with a whole header**: the magic and a count. -/
structure Declares (bs : Bytes) : Prop where
  magic : bs.take 4 = Nev.magic
  whole : headerSize ≤ bs.length

/-- A header that declares a count is read. -/
theorem Declares.exists_header (h : Declares s.bytes) :
    ∃ s', header s = .ok (declared s.bytes, s') := by
  have hwhole := h.whole
  cases hheader : header s with
  | ok p =>
    obtain ⟨count, s'⟩ := p
    obtain ⟨-, hdeclared, -, -⟩ := header_layout hheader
    exact ⟨s', by rw [hdeclared]⟩
  | error e =>
    rcases header_eq_error hheader with ⟨hshort | ⟨-, hshort⟩, -⟩ | ⟨-, hm, -⟩
    · unfold headerSize at hwhole
      omega
    · omega
    · exact absurd h.magic hm

/-- **A reader of images crashes over the count that a header declares**, and over nothing else. -/
theorem decode_crash_iff : decode a s = .error .crash ↔
    Declares s.bytes ∧ a.Fits (declared s.bytes) ∧ Allocator.maxColumn < declared s.bytes := by
  rw [← (grant_answers a (declared s.bytes)).crashed_iff]
  constructor
  · intro h
    cases decode_eq_error h with
    | refused _ hm hlong hgrant => exact ⟨⟨hm, hlong⟩, hgrant⟩
  · rintro ⟨hdeclares, hgrant⟩
    obtain ⟨s', hheader⟩ := hdeclares.exists_header
    unfold decode
    simp only [hheader, hgrant]

/-- A fault is about the count that a header declares, or about a malformed source. -/
theorem decode_fault {f : Fault} (h : decode a s = .error (.fault f)) :
    (Declares s.bytes ∧ ¬ a.Fits (declared s.bytes) ∧ f.kind = .allocation) ∨
      f.kind = .malformedSource := by
  generalize he : Stop.fault f = e at h
  cases decode_eq_error h with
  | refused _ hm hlong hgrant =>
    subst he
    obtain ⟨hmisfit, hkind⟩ := (grant_answers a (declared s.bytes)).of_fault hgrant
    exact .inl ⟨⟨hm, hlong⟩, hmisfit, hkind⟩
  | cut got _ =>
    cases he
    exact .inr rfl
  | magic _ _ =>
    cases he
    exact .inr rfl
  | extra _ _ _ =>
    cases he
    exact .inr rfl

/-- A batch that is read has as many events as its header declares. -/
theorem has_of_decode (h : decode a s = .ok b) : b.Has (declared s.bytes) := by
  obtain ⟨es, rfl, hbytes, hadmits⟩ := decode_eq_ok h
  have hlt := hadmits.lt_word
  refine Batch.has_live ?_
  rw [hbytes, declared_image (by rw [Array.length_toList]; omega), Array.length_toList]

end Nev

/-- **How asking for a count ends, and how reading one does.** What does not fit is refused as an
allocation, and what fits gives a batch with two columns of that size, as far as a column can be
addressed; beyond that, and only there, the request crashes. A reader of images does the same with
the count in the header, and refuses what else it does not take as malformed. -/
theorem counts_end (a : Allocator) :
    (∀ count : Int64,
      ((∃ b, Batch.new a count = .ok b) ↔
        a.Fits count.toInt ∧ count.toInt ≤ Allocator.maxColumn) ∧
      (Batch.new a count = .error .crash ↔
        a.Fits count.toInt ∧ Allocator.maxColumn < count.toInt) ∧
      (∀ f, Batch.new a count = .error (.fault f) →
        ¬ a.Fits count.toInt ∧ f.kind = .allocation) ∧
      ∀ b, Batch.new a count = .ok b → b.Has count.toInt) ∧
    ∀ s : Stream,
      (Nev.decode a s = .error .crash ↔ Nev.Declares s.bytes ∧
        a.Fits (Nev.declared s.bytes) ∧ Allocator.maxColumn < Nev.declared s.bytes) ∧
      (∀ f, Nev.decode a s = .error (.fault f) →
        (Nev.Declares s.bytes ∧ ¬ a.Fits (Nev.declared s.bytes) ∧ f.kind = .allocation) ∨
          f.kind = .malformedSource) ∧
      ∀ b, Nev.decode a s = .ok b → b.Has (Nev.declared s.bytes) := by
  refine ⟨fun count => ?_, fun s => ⟨Nev.decode_crash_iff, fun f => Nev.decode_fault,
    fun b => Nev.has_of_decode⟩⟩
  have hanswer := Batch.new_answers a count
  refine ⟨⟨?_, ?_⟩, hanswer.crashed_iff, fun f => hanswer.of_fault, fun b => Batch.has_of_new⟩
  · rintro ⟨b, hb⟩
    obtain ⟨hfits, hcolumn, -⟩ := hanswer.of_ok hb
    exact ⟨hfits, hcolumn⟩
  · rintro ⟨hfits, hcolumn⟩
    obtain ⟨b, hb, -⟩ := hanswer.of_fits hfits hcolumn
    exact ⟨b, hb⟩

/-- A count of `2 ^ 46` is refused by no rule, and crashes whether it is asked for or stands in the
twelve octets of a header. -/
theorem vast_counts_crash :
    Batch.new .unlimited 0x400000000000 = .error .crash ∧
      Nev.decode .unlimited { bytes := Nev.opening 0x400000000000 } = .error .crash := by
  decide +kernel

end DetectorStream
