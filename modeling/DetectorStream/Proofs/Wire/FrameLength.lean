import DetectorStream.Proofs.Delivery.Framing
import DetectorStream.Proofs.Json.Length
import DetectorStream.Proofs.Wire.JsonRoundTrip
import DetectorStream.Proofs.Wire.Layout
import DetectorStream.Wire.Format

/-!
# Messages that are too long for a frame

A frame tells the length of its message in four octets. A message of four gigabytes or more loses the
higher part of its length, and what is read back is not the message. The number of events that a
message may have keeps every buffer far below that, but it was chosen for twelve octets per event: a
document has up to thirty-three.

* `Frame.Kept`: a message that is read back from its frame; **`Frame.kept_iff`**: these are the
  messages below four gigabytes.
* `JsonMessage.length`: the length of a document; `JsonMessage.longest`: the length of the longest
  one with so many events and a name of so many octets.
* **`Format.kept_extent`**: which encoded messages are kept.
* **`Format.document_not_kept`**: a message that is encoded and not kept.
-/

namespace DetectorStream

/-! ## Frames -/

namespace Frame

open LittleEndian (get)

variable {message : Bytes}

/-- **A message that is kept by its frame**: the frame tells its length, and it is read back from
between any others. -/
structure Kept (message : Bytes) : Prop where
  header_eq : get (header message) = message.length
  decode_eq : ∀ before after : List Bytes, (∀ m ∈ before, m.length < 2 ^ 32) →
    (∀ m ∈ after, m.length < 2 ^ 32) → ∀ abrupt,
      decode ⟨(before ++ message :: after).flatMap encode, .clean, abrupt⟩ =
        (before ++ message :: after, none)

/-- The messages that are kept are those whose length fits into four octets. -/
theorem kept_iff : Kept message ↔ message.length < 2 ^ 32 := by
  refine ⟨fun h => ?_, fun hfit => ⟨get_header hfit, fun before after hbefore hafter abrupt => ?_⟩⟩
  · rw [← h.header_eq]
    exact get_lt_of_header (length_header message)
  · refine decode_frames (fun m hm => ?_) abrupt
    rcases List.mem_append.mp hm with hm | hm
    · exact hbefore m hm
    · rcases List.mem_cons.mp hm with rfl | hm
      · exact hfit
      · exact hafter m hm

/-- What is read from the frame of a message that is too long is not the message. -/
theorem decode_ne_of_overlong (h : 2 ^ 32 ≤ message.length) (abrupt : Bool) :
    decode ⟨encode message, .clean, abrupt⟩ ≠ ([message], none) := by
  obtain ⟨found, tail, hframed, m, hm, -, n, hn, hfound⟩ :=
    exists_framed_of_overlong ⟨message, List.mem_singleton_self message, h⟩ []
  have hread := hframed.decode_eq abrupt
  rw [List.flatMap_singleton, List.append_nil] at hread
  intro hdecode
  rw [hread] at hdecode
  rw [(Prod.mk.inj hdecode).1, List.mem_singleton, List.mem_singleton.mp hm] at hfound
  have hlength := List.length_take_le n message
  rw [hfound] at hlength
  omega

end Frame

/-! ## Documents -/

namespace JsonMessage

variable {m : Message}

/-- How long the document of a message is. -/
def length (m : Message) : Nat :=
  114 + (Decimal.ofNat m.size).length + (Json.quote m.sourceName).length
    + (Decimal.ofNat m.id.toNat).length + (Decimal.ofNat m.pulseTime.toNat).length
    + (Json.numbers (m.columns.ids.map Int64.toInt)).length
    + (Json.numbers (m.columns.timestamps.map Int32.toInt)).length

theorem length_document (m : Message) : (document m).length = length m := by
  have hname : ∀ k : Text, k.all Json.isNameOctet = true → (Json.quote k).length = k.length + 2 := by
    intro k hk
    rw [Json.quote_name hk, List.length_append, List.length_cons, List.length_singleton]
  rw [document, Json.length_record, members]
  simp only [List.map_cons, List.map_nil, List.sum_cons, List.sum_nil]
  rw [hname "format" (by decide), hname "version" (by decide), hname "count" (by decide),
    hname "source_name" (by decide), hname "message_id" (by decide), hname "pulse_time" (by decide),
    hname "detector_id" (by decide), hname "time_of_flight" (by decide), hname tag (by decide),
    length]
  have hlengths : (Text.ofString "format").length = 6 ∧ (Text.ofString "version").length = 7 ∧
      (Text.ofString "count").length = 5 ∧ (Text.ofString "source_name").length = 11 ∧
      (Text.ofString "message_id").length = 10 ∧ (Text.ofString "pulse_time").length = 10 ∧
      (Text.ofString "detector_id").length = 11 ∧ (Text.ofString "time_of_flight").length = 14 ∧
      tag.length = 4 ∧ (Text.ofString "1").length = 1 := by decide
  omega

/-- How long the longest document is of a message with `events` events under a name of `octets`
octets: the arrays have a comma less than numbers. -/
def longest (events octets : Nat) : Nat :=
  160 + (Decimal.ofNat events).length + 6 * octets + (33 * events - 2)

theorem length_le_longest (hcolumns : m.columns.ids.length = m.columns.timestamps.length) :
    length m ≤ longest m.size m.sourceName.length := by
  have hword : ∀ n : UInt64, (Decimal.ofNat n.toNat).length ≤ 20 := fun n => by
    have hlt := n.toNat_lt
    exact Decimal.length_ofNat_le (by decide) (by omega)
  have hname := Json.length_quote_le m.sourceName
  have hid := hword m.id
  have hpulse := hword m.pulseTime
  have hids : (Json.numbers (m.columns.ids.map Int64.toInt)).length ≤ (20 + 1) * m.size - 1 + 2 := by
    have hshort := Json.length_numbers_le 20 (m.columns.ids.map Int64.toInt) (by
      intro i hi
      obtain ⟨word, -, rfl⟩ := List.mem_map.mp hi
      exact Json.length_ofInt_word word)
    rwa [List.length_map] at hshort
  have htimestamps : (Json.numbers (m.columns.timestamps.map Int32.toInt)).length ≤
      (11 + 1) * m.size - 1 + 2 := by
    have hshort := Json.length_numbers_le 11 (m.columns.timestamps.map Int32.toInt) (by
      intro i hi
      obtain ⟨half, -, rfl⟩ := List.mem_map.mp hi
      exact Json.length_ofInt_half half)
    rwa [List.length_map, ← hcolumns] at hshort
  unfold length longest
  omega

/-- A message of which every part is as long as it can be. -/
def extreme (events octets : Nat) : Message where
  sourceName := List.replicate octets 0xFF
  id := 0xFFFFFFFFFFFFFFFF
  pulseTime := 0xFFFFFFFFFFFFFFFF
  columns := ⟨List.replicate events Int64.minValue, List.replicate events Int32.minValue⟩

theorem size_extreme (events octets : Nat) :
    (extreme events octets).columns.ids.length = events ∧
      (extreme events octets).columns.timestamps.length = events :=
  ⟨List.length_replicate, List.length_replicate⟩

/-- **The bound is reached.** -/
theorem length_extreme (events octets : Nat) :
    length (extreme events octets) = longest events octets := by
  have hword : (Decimal.ofNat (0xFFFFFFFFFFFFFFFF : UInt64).toNat).length = 20 := by decide +kernel
  have hmin : (Decimal.ofInt Int64.minValue.toInt).length = 20 := by decide +kernel
  have hmin' : (Decimal.ofInt Int32.minValue.toInt).length = 11 := by decide +kernel
  unfold length longest extreme Message.size
  simp only [List.length_replicate, List.map_replicate]
  rw [Json.length_quote_strays, Json.length_numbers_replicate, Json.length_numbers_replicate, hword,
    hmin, hmin']
  omega

theorem encode_extreme {events : Nat} (h : events ≤ Message.maxEvents) (octets : Nat) :
    encode (extreme events octets) = .ok (document (extreme events octets)) := by
  obtain ⟨hids, htimestamps⟩ := size_extreme events octets
  exact encode_eq_ok.mpr
    ⟨⟨hids.trans htimestamps.symm, Nat.le_trans (Nat.le_of_eq hids) h⟩, rfl⟩

end JsonMessage

/-! ## Both formats -/

namespace Format

/-- **Which encoded messages are kept.** Every buffer that is encoded, in new memory or in memory that
has been used before, is below two gigabytes and kept. A document is kept if and only if it is below
four gigabytes; and all documents with so many events and a name of so many octets are kept if and
only if the longest one is below four gigabytes. -/
theorem kept_extent (m : Message) (events octets : Nat) :
    (∀ capacity ≤ Ev42.usedMemory, ∀ buf, Ev42.encodeIn capacity m = .ok buf →
      buf.length < 2 ^ 31 ∧ Frame.Kept buf) ∧
    (∀ buf, json.encode m = .ok buf → buf.length = JsonMessage.length m ∧
      (Frame.Kept buf ↔ JsonMessage.length m < 2 ^ 32)) ∧
    (events ≤ Message.maxEvents →
      ((∀ m buf, m.size = events → m.sourceName.length = octets → json.encode m = .ok buf →
        Frame.Kept buf) ↔ JsonMessage.longest events octets < 2 ^ 32)) := by
  refine ⟨fun capacity hcapacity buf hbuf => ?_, fun buf hbuf => ?_, fun hevents => ⟨fun h => ?_, ?_⟩⟩
  · obtain ⟨rfl, -, -, hlt⟩ :=
      Ev42.encodeIn_eq_ok hbuf (Nat.lt_of_le_of_lt hcapacity (by decide))
    exact ⟨by omega, Frame.kept_iff.mpr (by omega)⟩
  · obtain ⟨-, rfl⟩ := JsonMessage.encode_eq_ok.mp hbuf
    rw [Frame.kept_iff, JsonMessage.length_document]
    exact ⟨rfl, Iff.rfl⟩
  · have hkept := h _ _ (JsonMessage.size_extreme events octets).1 List.length_replicate
      (JsonMessage.encode_extreme hevents octets)
    rwa [Frame.kept_iff, JsonMessage.length_document, JsonMessage.length_extreme] at hkept
  · rintro hlongest m buf rfl rfl hbuf
    obtain ⟨⟨hcolumns, -⟩, rfl⟩ := JsonMessage.encode_eq_ok.mp hbuf
    rw [Frame.kept_iff, JsonMessage.length_document]
    exact Nat.lt_of_le_of_lt (JsonMessage.length_le_longest hcolumns) hlongest

/-- A document of 131 million events of the longest kind: its frame says that it has 28 million
octets, and what is read back is not the document. -/
theorem document_not_kept :
    let m := JsonMessage.extreme 131000000 0
    m.size ≤ Message.maxEvents ∧ m.columns.ids.length = m.columns.timestamps.length ∧
      ∃ buf, json.encode m = .ok buf ∧ buf.length = 4323000167 ∧
        LittleEndian.get (Frame.header buf) = 28032871 ∧ ¬ Frame.Kept buf ∧
        Frame.decode ⟨Frame.encode buf, .clean, false⟩ ≠ ([buf], none) := by
  intro m
  obtain ⟨hids, htimestamps⟩ := JsonMessage.size_extreme 131000000 0
  have hmany : 131000000 ≤ Message.maxEvents := by decide
  have hlength : (JsonMessage.document (JsonMessage.extreme 131000000 0)).length = 4323000167 := by
    rw [JsonMessage.length_document, JsonMessage.length_extreme]
    decide +kernel
  have hheader : LittleEndian.get
      (Frame.header (JsonMessage.document (JsonMessage.extreme 131000000 0))) = 28032871 := by
    unfold Frame.header
    rw [LittleEndian.get_put, hlength]
    decide
  refine ⟨Nat.le_trans (Nat.le_of_eq hids) hmany, hids.trans htimestamps.symm, _,
    JsonMessage.encode_extreme hmany 0, hlength, hheader, fun hkept => ?_,
    Frame.decode_ne_of_overlong (by omega) false⟩
  have hfit := Frame.kept_iff.mp hkept
  omega

end Format

end DetectorStream
