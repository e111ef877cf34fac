import DetectorStream.Proofs.Json.Reading
import DetectorStream.Wire.JsonMessage

/-!
# Reading back a JSON message

The members of a document fill an envelope one after the other: the tag, the version and the count,
and then the fields of the message. What is filled in is the message itself, except that the stray
octets of its name come back as U+FFFD.

* `documentAt`: the document of a message with another version.
* `fills`: the members of a document lead from the empty envelope to that of the message.
* `decode_document`: the document of a message with columns of the same length.
* **`exists_encoding_decoded`**: encoding succeeds, and decoding gives the message back.
-/

namespace DetectorStream.JsonMessage

variable {m : Message}

/-- The message as a document tells it: no octet of its name is stray. -/
def told (m : Message) : Message := { m with sourceName := Text.sanitize m.sourceName }

/-- A message with a well-formed name is told as it is. -/
theorem told_eq (h : Text.isUtf8 m.sourceName = true) : told m = m := by
  unfold told
  rw [Text.sanitize_eq h]

/-- The envelope of a message. -/
def envelope (m : Message) : Envelope := ⟨tag, 1, m.size, told m⟩

/-! ## The members -/

/-- The members of a document that tells the version `v`. -/
def membersAt (v : UInt16) (m : Message) : List (Text × Text) :=
  (members m).set 1 ("version", Decimal.ofNat v.toNat)

/-- The document of a message with another version. -/
def documentAt (v : UInt16) (m : Message) : Text := Json.record (membersAt v m)

theorem documentAt_one (m : Message) : documentAt 1 m = document m := by
  have hone : Decimal.ofNat (1 : UInt16).toNat = Text.ofString "1" :=
    Decimal.ofNat_of_lt (show 1 < 10 by decide)
  unfold documentAt membersAt
  rw [hone]
  rfl

/-- **The members of a document lead from the empty envelope to that of the message**, with the
version that the document tells. -/
theorem fills (v : UInt16) (hsize : m.size < 2 ^ 63) :
    Json.Fills fields (membersAt v m) {} { envelope m with version := v.toNat } := by
  let name := Text.sanitize m.sourceName
  -- each step names the envelope as it stands after the member
  refine .cons ⟨tag, 0, 0, {}⟩ (by decide) rfl ?format <|
    .cons ⟨tag, v.toNat, 0, {}⟩ (by decide) rfl ?version <|
    .cons ⟨tag, v.toNat, m.size, {}⟩ (by decide) rfl ?count <|
    .cons ⟨tag, v.toNat, m.size, ⟨name, 0, 0, .empty⟩⟩ (by decide) rfl ?name <|
    .cons ⟨tag, v.toNat, m.size, ⟨name, m.id, 0, .empty⟩⟩ (by decide) rfl ?id <|
    .cons ⟨tag, v.toNat, m.size, ⟨name, m.id, m.pulseTime, .empty⟩⟩ (by decide) rfl ?time <|
    .cons ⟨tag, v.toNat, m.size, ⟨name, m.id, m.pulseTime, ⟨m.columns.ids, []⟩⟩⟩ (by decide) rfl
      ?ids <|
    .cons { envelope m with version := v.toNat } (by decide) rfl ?timestamps <| .nil _
  all_goals intro rest h
  case format =>
    simp only [Json.string_quote, Option.map_some, Option.getD_some]
    rw [Text.sanitize_eq (Text.isUtf8_of_ascii (by decide))]
  case version =>
    simp only [Json.natural_ofNat h (show 16 ≤ 64 by decide) v.toNat_lt, Option.map_some,
      Option.getD_some]
  case count =>
    have hcount : Decimal.ofNat m.size = Decimal.ofInt m.size := rfl
    have hfits : Json.fits 64 (m.size : Int) = true := rfl
    simp only [hcount, Json.integer_ofInt h (by omega) (by omega) hfits, Option.map_some,
      Option.getD_some]
  case name => simp only [Json.string_quote, Option.map_some, Option.getD_some, name]
  case id =>
    simp only [Json.natural_ofNat h (Nat.le_refl 64) m.id.toNat_lt, Option.map_some,
      Option.getD_some, Nat.toUInt64_eq, UInt64.ofNat_toNat]
  case time =>
    simp only [Json.natural_ofNat h (Nat.le_refl 64) m.pulseTime.toNat_lt, Option.map_some,
      Option.getD_some, Nat.toUInt64_eq, UInt64.ofNat_toNat]
  case ids =>
    simp only [Json.array_numbers (fun i _ => Json.fits_word i) fun i _ => Int64.ofInt_toInt i,
      Option.map_some, Columns.empty]
  case timestamps =>
    simp only [Json.array_numbers (fun i _ => Json.fits_half i) fun i _ => Int32.ofInt_toInt i,
      Option.map_some]
    rfl

/-- Such a document is one object, and nothing is left of it. -/
theorem object_documentAt (v : UInt16) (hsize : m.size < 2 ^ 63) :
    Json.object fields false {} (documentAt v m) =
      some ({ envelope m with version := v.toNat }, []) := by
  have hobject : Json.object fields false {} (documentAt v m ++ []) =
      some ({ envelope m with version := v.toNat }, []) :=
    Json.object_record (fills v hsize) []
  rwa [List.append_nil] at hobject

/-- The document of a message is one object, and nothing is left of it. -/
theorem object_document (hsize : m.size < 2 ^ 63) :
    Json.object fields false {} (document m) = some (envelope m, []) := by
  rw [← documentAt_one]
  exact object_documentAt 1 hsize

/-- The document of a message with columns of the same length is read back. -/
theorem decode_document (hsize : m.size < 2 ^ 63)
    (hcolumns : m.columns.ids.length = m.columns.timestamps.length) :
    decode (document m) = .ok (told m) := by
  have henvelope : envelope? (document m) = some (envelope m) := by
    unfold envelope?
    rw [object_document hsize]
    rfl
  unfold decode
  rw [henvelope]
  simp [envelope, told, Message.size, hcolumns]

/-- What is encoded are the messages with columns of the same length that are not too long. -/
theorem encode_eq_ok {buf : Bytes} : encode m = .ok buf ↔
    (m.columns.ids.length = m.columns.timestamps.length ∧
      m.columns.ids.length ≤ Message.maxEvents) ∧ buf = document m := by
  unfold encode Message.refusal?
  by_cases hcolumns : m.columns.ids.length = m.columns.timestamps.length
  · rw [if_neg (not_not.mpr hcolumns)]
    by_cases hsize : m.columns.ids.length ≤ Message.maxEvents
    · rw [if_neg (Nat.not_lt.mpr hsize)]
      refine ⟨fun h => ⟨⟨hcolumns, hsize⟩, (Except.ok.inj h).symm⟩, ?_⟩
      rintro ⟨-, rfl⟩
      rfl
    · rw [if_pos (Nat.lt_of_not_le hsize)]
      exact ⟨nofun, fun h => absurd h.1.2 hsize⟩
  · rw [if_pos hcolumns]
    exact ⟨nofun, fun h => absurd h.1.1 hcolumns⟩

/-- **A message with columns of the same length that are not too long is encoded, and decoding gives
it back with the stray octets of its name replaced**: a message with a well-formed name comes back
as it was. -/
theorem exists_encoding_decoded (hcolumns : m.columns.ids.length = m.columns.timestamps.length)
    (hsize : m.columns.ids.length ≤ Message.maxEvents) :
    ∃ buf, encode m = .ok buf ∧
      decode buf = .ok { m with sourceName := Text.sanitize m.sourceName } ∧
      (Text.isUtf8 m.sourceName = true → decode buf = .ok m) := by
  have hword : m.size < 2 ^ 63 := Nat.lt_of_le_of_lt hsize (by decide)
  have hdecode : decode (document m) = .ok (told m) := decode_document hword hcolumns
  refine ⟨document m, encode_eq_ok.mpr ⟨⟨hcolumns, hsize⟩, rfl⟩, hdecode, fun hname => ?_⟩
  rw [hdecode, told_eq hname]

/-- A quote and a stray octet in the name, and the ends of all ranges of numbers. -/
theorem exists_encoding_decoded_extremes :
    let m : Message := ⟨[0x22, 0xFF], 0xFFFFFFFFFFFFFFFF, 0,
      ⟨[Int64.minValue, Int64.maxValue], [Int32.minValue, Int32.maxValue]⟩⟩
    ∃ buf, encode m = .ok buf ∧
      decode buf = .ok { m with sourceName := [0x22, 0xEF, 0xBF, 0xBD] } := by
  intro m
  have hname : Text.sanitize m.sourceName = [0x22, 0xEF, 0xBF, 0xBD] := by decide +kernel
  obtain ⟨buf, hencode, hdecode, -⟩ := exists_encoding_decoded (m := m) rfl (by decide)
  rw [hname] at hdecode
  exact ⟨buf, hencode, hdecode⟩

end DetectorStream.JsonMessage
