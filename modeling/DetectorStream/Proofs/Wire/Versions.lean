import DetectorStream.Proofs.Wire.Received
import DetectorStream.Proofs.Wire.Untrusted

/-!
# Versions of messages

Both formats write the version of their layout into every message. In an ev42 message it is a field
of the table, which may be absent; in a JSON message it is a member of the envelope, which may be
absent too, stand anywhere or be repeated. An ev42 message is refused for any version but the one
that is written. A JSON message is not: its format and its count are checked, and its version is read
and forgotten.

* `Ev42.decode_unsupported`, `Ev42.version_of_decode`: the version of any buffer.
* `Ev42.versioned`, `Ev42.decode_versioned`: an encoded message with another version.
* `JsonMessage.decode_eq_ok_iff`: what makes a document a message.
* `JsonMessage.decode_documentAt`: the document of a message with another version.
* **`Format.decode_versions`**: in which format the version decides whether a message is decoded.
* `Format.decode_accepts_version_two`: a document of version two that is decoded.
-/

namespace DetectorStream

/-! ## The version of a table -/

namespace Ev42

open FlatBuffer (Table Holds Shaped)
open LittleEndian (put)

variable {m : Message} {buf : Bytes} {t : Table} {v : Nat}

/-- The complaint about a version other than that of the layout. -/
def unsupported (v : Nat) : Fault :=
  .report .encoding ("unsupported ev42 version " ++ Decimal.ofNat v)

/-- **A buffer is refused for the version that its table tells**, before anything else of the table
is looked at. A table without the field tells the version zero. -/
theorem decode_unsupported (hlong : 8 ≤ buf.length) (htag : (buf.drop 4).take 4 = tag)
    (hroot : Table.root? buf = some t) (hversion : t.number? Slot.version.index 2 0 = some v)
    (hne : v ≠ version) : decode buf = .error (unsupported v) := by
  unfold decode decodeBefore
  rw [if_neg (Nat.not_lt.mpr hlong)]
  simp only [htag, hroot, hversion, inside, bind, Except.bind, ne_eq, not_true_eq_false, if_false,
    hne, not_false_eq_true, if_true, unsupported]

/-- What is decoded has a table with the version of the layout. -/
theorem number_of_decode (h : decode buf = .ok m) :
    ∃ t, Table.root? buf = some t ∧ t.number? Slot.version.index 2 0 = some version := by
  unfold decode decodeBefore at h
  split at h
  · cases h
  simp only at h
  split at h
  · cases h
  rcases inside_cases (Table.root? buf) with hroot | ⟨t, hroot, htable⟩
  · rw [hroot] at h
    cases h
  rw [htable] at h
  simp only [bind, Except.bind] at h
  rcases inside_cases (t.number? Slot.version.index 2 0) with hnone | ⟨v, hv, hversion⟩
  · rw [hnone] at h
    cases h
  rw [hversion] at h
  simp only at h
  split at h
  · cases h
  · rename_i heq
    rw [not_not.mp heq] at hv
    exact ⟨t, hroot, hv⟩

/-- **What is decoded has the version of the layout in its table**: the field is there, and it stands
in the buffer. -/
theorem version_of_decode (h : decode buf = .ok m) :
    ∃ t p, Table.root? buf = some t ∧ t.field? Slot.version.index = some (some p) ∧
      Holds buf p (put 2 version) := by
  obtain ⟨t, hroot, hversion⟩ := number_of_decode h
  obtain ⟨rfl, -⟩ := buffer_of_root? hroot
  rcases FlatBuffer.Table.number?_eq_some (by decide) hversion with ⟨-, hzero⟩ | ⟨p, hp, -, hholds⟩
  · exact absurd hzero (by decide)
  · exact ⟨t, p, hroot, hp, hholds⟩

/-! ## An encoded message with another version -/

/-- Where the version of a message stands. -/
def versionPlace (m : Message) : Nat := tablePlace m + 6

/-- **A message with another version**: every octet but the two of the version is as it was. -/
def versioned (v : UInt16) (m : Message) : Bytes :=
  (image m).take (versionPlace m) ++ (put 2 v.toNat ++ (image m).drop (versionPlace m + 2))

/-- The version of an image. -/
theorem version_holds (m : Message) : Holds (image m) (versionPlace m) (put 2 version) := by
  obtain ⟨-, hversion, -⟩ := (tabled m).table_holds
  exact hversion

theorem versioned_one (m : Message) : versioned 1 m = image m := by
  obtain ⟨before, after, himage, hplace⟩ := version_holds m
  have hone : put 2 (1 : UInt16).toNat = put 2 version := rfl
  have hafter : (image m).drop (versionPlace m + 2) = after := by
    rw [himage, ← List.append_assoc]
    exact List.drop_left' (by rw [List.length_append, LittleEndian.length_put, hplace])
  have hbefore : (image m).take (versionPlace m) = before := by
    rw [himage]
    exact List.take_left' hplace
  unfold versioned
  rw [hone, hafter, hbefore, ← himage]

/-- What stands in front of the version stays there. -/
theorem versioned_holds {place : Nat} {bs : Bytes} (h : Holds (image m) place bs)
    (hend : place + bs.length ≤ versionPlace m) (v : UInt16) : Holds (versioned v m) place bs := by
  have hversion := (version_holds m).le_length
  have hfirst : ((image m).take (versionPlace m)).length = versionPlace m :=
    List.length_take_of_le (by omega)
  obtain ⟨before, after, hhead, hplace⟩ :=
    h.of_head (List.take_prefix (versionPlace m) (image m)) (by omega)
  refine ⟨before, after ++ (put 2 v.toNat ++ (image m).drop (versionPlace m + 2)), ?_, hplace⟩
  unfold versioned
  rw [hhead, List.append_assoc, List.append_assoc]

theorem version_versioned (v : UInt16) (m : Message) :
    Holds (versioned v m) (versionPlace m) (put 2 v.toNat) := by
  have hversion := (version_holds m).le_length
  exact ⟨_, _, rfl, List.length_take_of_le (by omega)⟩

/-- **An encoded message with another version is refused for it.** The list of field offsets leads to
the version as before. -/
theorem decode_versioned {v : UInt16} (hne : v ≠ 1) :
    decode (versioned v m) = .error (unsupported v.toNat) := by
  have hlt := tablePlace_lt m
  have hplace : tablePlace m = 8 + slack m + 16 := rfl
  have hversion : versionPlace m = tablePlace m + 6 := rfl
  obtain ⟨hplaced, htag, hoffsets, -⟩ := image_holds m
  obtain ⟨hback, -⟩ := (tabled m).table_holds
  have htag' := versioned_holds htag (by simp only [tag, List.length_cons, List.length_nil]; omega) v
  have hplaced' := versioned_holds hplaced (by rw [LittleEndian.length_put]; omega) v
  have hroot : Table.root? (versioned v m) = some ⟨versioned v m, tablePlace m, []⟩ := by
    unfold Table.root?
    rw [hplaced'.word?_eq (by omega)]
    rfl
  have hshaped : Shaped ⟨versioned v m, tablePlace m, []⟩ (8 + slack m) (tableSize m)
      (fieldOffsets m) :=
    shaped_of_holds rfl
      (versioned_holds hback (by rw [LittleEndian.length_put]; omega) v)
      (versioned_holds hoffsets (by rw [length_offsetBytes]; omega) v)
  refine decode_unsupported htag'.le_length htag'.take_drop hroot
    (hshaped.number?_eq (o := 6) rfl (by decide) (by simp only; omega) (version_versioned v m)
      v.toNat_lt 0) ?_
  intro heq
  exact hne (UInt16.toNat_inj.mp heq)

end Ev42

/-! ## The version of a document -/

namespace JsonMessage

variable {m : Message} {bs : Bytes}

/-- **The envelope is that of a message**: it has the format, and its count is that of both columns. -/
structure Envelope.Fits (e : Envelope) : Prop where
  format : e.format = tag
  ids : e.count = e.message.columns.ids.length
  timestamps : e.count = e.message.columns.timestamps.length

/-- **A document is a message exactly if its envelope fits.** The version of the envelope does not
come into it. -/
theorem decode_eq_ok_iff :
    decode bs = .ok m ↔ ∃ e, envelope? bs = some e ∧ e.Fits ∧ e.message = m := by
  unfold decode
  cases envelope? bs with
  | none =>
    constructor
    · intro h
      cases h
    · rintro ⟨e, h, -⟩
      cases h
  | some e =>
    have hcount : (decide (e.count ≠ e.message.columns.ids.length) ||
        decide (e.count ≠ e.message.columns.timestamps.length)) = true ↔
          ¬ (e.count = e.message.columns.ids.length ∧
            e.count = e.message.columns.timestamps.length) := by
      simp only [Bool.or_eq_true, decide_eq_true_eq, ne_eq, Classical.not_and_iff_not_or_not]
    simp only [Option.some.injEq, exists_eq_left']
    split
    · rename_i hformat
      constructor
      · intro h
        cases h
      · exact fun h => absurd h.1.format hformat
    · rename_i hformat
      split
      · rename_i hwrong
        constructor
        · intro h
          cases h
        · exact fun h => absurd ⟨h.1.ids, h.1.timestamps⟩ (hcount.mp hwrong)
      · rename_i hright
        obtain ⟨hids, htimestamps⟩ := not_not.mp (mt hcount.mpr hright)
        exact ⟨fun h => ⟨⟨not_not.mp hformat, hids, htimestamps⟩, Except.ok.inj h⟩,
          fun h => congrArg Except.ok h.2⟩

/-- The envelope of the document of a message with another version. -/
theorem envelope?_documentAt (v : UInt16) (hsize : m.size < 2 ^ 63) :
    envelope? (documentAt v m) = some { envelope m with version := v.toNat } := by
  unfold envelope?
  rw [object_documentAt v hsize]
  rfl

/-- **The document of a message with any version is that message.** -/
theorem decode_documentAt (v : UInt16) (hsize : m.size < 2 ^ 63)
    (hcolumns : m.columns.ids.length = m.columns.timestamps.length) :
    decode (documentAt v m) = .ok (told m) :=
  decode_eq_ok_iff.mpr ⟨_, envelope?_documentAt v hsize, ⟨rfl, rfl, congrArg Nat.cast hcolumns⟩, rfl⟩

end JsonMessage

/-! ## Which decoder checks the version -/

namespace Format

/-- **The version decides whether an ev42 message is decoded, and never whether a JSON message is.**
If bytes are decoded as an ev42 message, the table has a version, which is that of the layout; if the
table tells another, they are refused with a complaint about the encoding, and so is an encoded message
whose version is replaced. If they are decoded as a JSON message, the document has the format, and the
count of both its columns; but that is all that is asked, so that the version is that of the layout only
for bytes whose envelope has that version if it fits. An encoded message whose version is replaced by any
other is decoded to what the message itself is decoded to. -/
theorem decode_versions (bs : Bytes) (m : Message) :
    (∀ read, Ev42.decode bs = .ok read → ∃ t p, FlatBuffer.Table.root? bs = some t ∧
      t.field? Ev42.Slot.version.index = some (some p) ∧
      FlatBuffer.Holds bs p (LittleEndian.put 2 Ev42.version)) ∧
    (∀ t v, 8 ≤ bs.length → (bs.drop 4).take 4 = Ev42.tag →
      FlatBuffer.Table.root? bs = some t → t.number? Ev42.Slot.version.index 2 0 = some v →
      v ≠ Ev42.version → Ev42.decode bs = .error (Ev42.unsupported v)) ∧
    (∀ buf, Ev42.encode m = .ok buf → Ev42.versioned 1 m = buf ∧ ∀ v, v ≠ 1 →
      Ev42.decode (Ev42.versioned v m) = .error (Ev42.unsupported v.toNat)) ∧
    (∀ read, JsonMessage.decode bs = .ok read ↔
      ∃ e, JsonMessage.envelope? bs = some e ∧ e.Fits ∧ e.message = read) ∧
    ((∀ read, JsonMessage.decode bs = .ok read →
        (JsonMessage.envelope? bs).map (·.version) = some 1) ↔
      ∀ e, JsonMessage.envelope? bs = some e → e.Fits → e.version = 1) ∧
    (∀ doc, JsonMessage.encode m = .ok doc → JsonMessage.documentAt 1 m = doc ∧
      JsonMessage.decode doc = .ok (JsonMessage.told m) ∧ ∀ v,
        (JsonMessage.envelope? (JsonMessage.documentAt v m)).map (·.version) = some v.toNat ∧
        JsonMessage.decode (JsonMessage.documentAt v m) = .ok (JsonMessage.told m)) := by
  refine ⟨fun _ => Ev42.version_of_decode, fun _ _ => Ev42.decode_unsupported, fun buf h => ?_,
    fun _ => JsonMessage.decode_eq_ok_iff, ⟨fun h e he hfits => ?_, fun h read hread => ?_⟩,
    fun doc h => ?_⟩
  · obtain ⟨rfl, -⟩ := Ev42.encode_eq_ok h
    exact ⟨Ev42.versioned_one m, fun v => Ev42.decode_versioned⟩
  · have hversion := h e.message (JsonMessage.decode_eq_ok_iff.mpr ⟨e, he, hfits, rfl⟩)
    rw [he] at hversion
    exact Option.some.inj hversion
  · obtain ⟨e, he, hfits, -⟩ := JsonMessage.decode_eq_ok_iff.mp hread
    rw [he, Option.map_some, h e he hfits]
  · obtain ⟨⟨hcolumns, hmost⟩, rfl⟩ := JsonMessage.encode_eq_ok.mp h
    have hsize : m.size < 2 ^ 63 := Nat.lt_of_le_of_lt hmost (by decide)
    refine ⟨JsonMessage.documentAt_one m, JsonMessage.decode_document hsize hcolumns, fun v => ?_⟩
    rw [JsonMessage.envelope?_documentAt v hsize]
    exact ⟨rfl, JsonMessage.decode_documentAt v hsize hcolumns⟩

/-- **A document of version two is decoded.** It differs from the document of a message in nothing but
its version, which is not the one that is written. -/
theorem decode_accepts_version_two :
    (∃ doc, JsonMessage.encode {} = .ok doc ∧ JsonMessage.documentAt 1 {} = doc) ∧
      (JsonMessage.envelope? (JsonMessage.documentAt 2 {})).map (·.version) = some 2 ∧
      JsonMessage.decode (JsonMessage.documentAt 2 {}) = .ok {} := by
  have hempty : JsonMessage.told {} = {} := JsonMessage.told_eq (Text.isUtf8_of_ascii (by decide))
  refine ⟨⟨_, rfl, JsonMessage.documentAt_one {}⟩, ?_, ?_⟩
  · rw [JsonMessage.envelope?_documentAt 2 (by decide)]
    rfl
  · rw [JsonMessage.decode_documentAt 2 (by decide) rfl, hempty]

end Format

end DetectorStream
