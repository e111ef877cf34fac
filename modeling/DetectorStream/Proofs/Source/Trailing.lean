import DetectorStream.Proofs.Json.Continued
import DetectorStream.Proofs.Source.Formats
import DetectorStream.Proofs.Source.NevEnding

/-!
# What follows a whole source

A source that is accepted can go on: a file may be concatenated with another one, or garbage may be
appended to it. The reader of images asks for one octet more than the image has, and complains if
there is one. The reader of JSON documents stops at the end of the first document, so that whatever
follows is never seen.

* `Stream.more`: a stream that goes on before it ends.
* `Nev.decode_more`: an image that goes on is refused.
* `JsonSource.columns?_append`, `JsonSource.decode_more`: a document that goes on is read as it is.
* **`Source.goes_on`**: both, for every accepted source and everything that may follow it.
-/

namespace DetectorStream

variable {a : Allocator} {s : Stream} {b : Batch}

/-- The stream with more octets before its end. -/
def Stream.more (s : Stream) (t : Bytes) : Stream := { s with bytes := s.bytes ++ t }

/-! ## Images -/

namespace Nev

/-- An image declares its events, whatever follows it. -/
theorem declared_image_append {es : List Event} (h : es.length < 2 ^ 64) (t : Bytes) :
    (image es ++ t).take 4 = magic ∧ declared (image es ++ t) = es.length := by
  have hlong : 12 ≤ (image es).length := by
    rw [length_image, headerSize]
    exact Nat.le_add_right _ _
  have htake : (image es).take 4 = magic := by
    rw [image_eq]
    rfl
  have hcount : 8 ≤ ((image es).drop 4).length := by
    rw [List.length_drop]
    omega
  refine ⟨?_, ?_⟩
  · rw [List.take_append_of_le_length (by omega), htake]
  · rw [declared, List.drop_append_of_le_length (by omega), List.take_append_of_le_length hcount]
    exact declared_image h

/-- **An image that goes on is refused**, however the stream ends. -/
theorem decode_more (h : decode a s = .ok b) {t : Bytes} (ht : t ≠ []) :
    decode a (s.more t) =
      .error (.fault (.report .malformedSource "trailing data after nev payload")) := by
  obtain ⟨es, -, hbytes, hadmits⟩ := decode_eq_ok h
  have hword : es.toList.length < 2 ^ 64 := by
    have hlt := hadmits.lt_word
    rw [Array.length_toList]
    omega
  have hmore : (s.more t).bytes = image es.toList ++ t := by
    rw [Stream.more, hbytes]
  obtain ⟨hmagic, hdeclared⟩ := declared_image_append hword t
  have hadmitted : a.Admits (declared (s.more t).bytes) := by
    rw [hmore, hdeclared, Array.length_toList]
    exact hadmits
  have hlength : headerSize + 12 * declared (s.more t).bytes < (s.more t).bytes.length := by
    have hpos := List.length_pos_iff.mpr ht
    rw [hmore, hdeclared, List.length_append, length_image]
    omega
  obtain ⟨e, he⟩ := decode_damaged (a := a) (s := s.more t) (.extra hlength)
  -- of the four ways to be rejected only the last is left
  cases decode_eq_error he with
  | extra _ _ _ => exact he
  | magic _ hm => exact absurd (hmore ▸ hmagic) hm
  | refused _ _ _ hgrant =>
    rw [grant_eq_ok_iff.mpr hadmitted] at hgrant
    cases hgrant
  | cut _ hcut =>
    rcases hcut with hshort | ⟨-, hshort⟩ | ⟨-, -, hshort⟩
    · unfold headerSize at hlength
      omega
    · omega
    · omega

end Nev

/-! ## Documents -/

namespace JsonSource

theorem fields_settled : ∀ f ∈ fields, ∀ c, Json.Settled (f.read c) := by
  have hids := (Json.integer_settled 64 false).map
    (g := fun p => (p.1.map Int64.ofInt, p.2)) fun _ _ _ => rfl
  have htimestamps := (Json.integer_settled 32 false).map
    (g := fun p => (p.1.map Int32.ofInt, p.2)) fun _ _ _ => rfl
  simp only [fields, List.forall_mem_cons, List.not_mem_nil, false_imp_iff, implies_true, and_true]
  exact ⟨fun c => (Json.array_settled hids 0 _).map fun _ _ _ => rfl,
    fun c => (Json.array_settled htimestamps 0 _).map fun _ _ _ => rfl⟩

/-- The text from where its first document starts: one comma or colon is passed over. -/
def documentStart (bytes : Bytes) : Bytes :=
  match Json.skipBlank bytes with
  | 0x2C :: t => t
  | 0x3A :: t => t
  | t => t

theorem columns?_eq (bytes : Bytes) :
    columns? bytes = (Json.object fields true .empty (documentStart bytes)).map Prod.fst := rfl

/-- The first document starts where it does, whatever follows. -/
theorem documentStart_append {bytes : Bytes} (h : Json.skipBlank bytes ≠ []) (t : Bytes) :
    documentStart (bytes ++ t) = documentStart bytes ++ t := by
  obtain ⟨b, rest, hskip⟩ := List.exists_cons_of_ne_nil h
  unfold documentStart
  rw [Json.skipBlank_append hskip t, hskip]
  split
  · rename_i heq
    cases heq
    rfl
  · rename_i heq
    cases heq
    rfl
  · rename_i hcomma hcolon
    split
    · rename_i heq
      cases heq
      exact absurd rfl (hcomma _)
    · rename_i heq
      cases heq
      exact absurd rfl (hcolon _)
    · rfl

/-- **The columns of a text are those of its first document**, whatever follows it. -/
theorem columns?_append {bytes : Bytes} {c : Columns} (h : columns? bytes = some c) (t : Bytes) :
    columns? (bytes ++ t) = some c := by
  rw [columns?_eq] at h ⊢
  obtain ⟨⟨c', rest⟩, hobject, rfl⟩ := Option.map_eq_some_iff.mp h
  have hstart : Json.skipBlank bytes ≠ [] := by
    intro hnil
    rw [documentStart, hnil] at hobject
    cases hobject
  rw [documentStart_append hstart, Json.object_append fields_settled hobject t]
  rfl

/-- **A document that goes on is read as it is.** -/
theorem decode_more (h : decode a s = .ok b) (t : Bytes) : decode a (s.more t) = .ok b := by
  unfold decode at h ⊢
  cases hlate : s.isDamaged && s.abrupt with
  | true =>
    -- nothing is looked at, so nothing was accepted
    rw [hlate] at h
    cases h
  | false =>
    have hlate' : ((s.more t).isDamaged && (s.more t).abrupt) = false := hlate
    rw [hlate] at h
    rw [hlate']
    simp only [Bool.false_eq_true, if_false] at h ⊢
    cases hcolumns : columns? s.bytes with
    | none =>
      rw [hcolumns] at h
      cases h
    | some c =>
      rw [hcolumns] at h
      rw [Stream.more, columns?_append hcolumns t]
      exact h

end JsonSource

/-! ## Both -/

namespace Source

/-- **What becomes of an accepted source that goes on.** An image with anything behind it is refused
as a malformed source. A document with anything behind it is read as the document alone, so that
neither a second document nor garbage is ever noticed. -/
theorem goes_on (a : Allocator) (s : Stream) (b : Batch) (t : Bytes) :
    (Nev.decode a s = .ok b → t ≠ [] →
      Nev.decode a (s.more t) =
        .error (.fault (.report .malformedSource "trailing data after nev payload"))) ∧
    (JsonSource.decode a s = .ok b → JsonSource.decode a (s.more t) = .ok b) :=
  ⟨fun h ht => Nev.decode_more h ht, fun h => JsonSource.decode_more h t⟩

/-- A document with one event. -/
def oneEvent : Bytes := "\x7b\"detector_id\":[1],\"time_of_flight\":[2]\x7d"

/-- The image of an event and a zero octet; a document and then another one. -/
theorem goes_on_one :
    Nev.decode .unlimited { bytes := Nev.image [⟨1, 2⟩] ++ [0] } =
        .error (.fault (.report .malformedSource "trailing data after nev payload")) ∧
      JsonSource.decode .unlimited { bytes := oneEvent ++ "\x7b\"detector_id\":[3]\x7d" } =
        .ok (.live #[⟨1, 2⟩]) := by
  have himage : Nev.decode .unlimited { bytes := Nev.image [⟨1, 2⟩] } = .ok (.live #[⟨1, 2⟩]) := by
    decide +kernel
  have hdocument : JsonSource.decode .unlimited { bytes := oneEvent } = .ok (.live #[⟨1, 2⟩]) := by
    decide +kernel
  exact ⟨(goes_on .unlimited _ _ [0]).1 himage (by decide),
    (goes_on .unlimited _ _ "\x7b\"detector_id\":[3]\x7d").2 hdocument⟩

/-- A document followed by garbage is not refused. -/
theorem document_hides_garbage :
    ¬ ∀ (a : Allocator) (bytes t : Bytes) (b : Batch),
      JsonSource.decode a { bytes } = .ok b → (∃ o ∈ t, Json.isBlank o = false) →
        ∃ f, JsonSource.decode a { bytes := bytes ++ t } = .error (.fault f) ∧
          f.kind = .malformedSource := by
  intro h
  have hdocument : JsonSource.decode .unlimited { bytes := oneEvent } = .ok (.live #[⟨1, 2⟩]) := by
    decide +kernel
  have hgarbage : JsonSource.decode .unlimited { bytes := oneEvent ++ "x" } =
      .ok (.live #[⟨1, 2⟩]) := by
    decide +kernel
  obtain ⟨f, hf, -⟩ := h .unlimited oneEvent "x" _ hdocument ⟨0x78, by decide, by decide⟩
  rw [hgarbage] at hf
  cases hf

end Source

end DetectorStream
