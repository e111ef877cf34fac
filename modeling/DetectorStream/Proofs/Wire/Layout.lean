import DetectorStream.Proofs.FlatBuffer.Building
import DetectorStream.Wire.Ev42

/-!
# The layout of an ev42 message

A message is built from its end, with padding that depends on what is there already. Read from its
start it has a fixed layout: the place of the table, the tag, the list of field offsets, the table,
the detector ids, the timestamps and the source name, with padding that depends on the length of the
name, the number of events, and whether the table holds a 64-bit number.

* `image`: the octets of a message, part by part, with the place of each part.
* `name_built`, `timestamps_built`, `ids_built`, `numbers_built`, `references_built`, `table_built`: the
  steps in which a message is built.
* **`build_eq`**: what is built is the image, and the room that it takes.
* **`encodeIn_eq`**: what encoding gives, in memory of any size.
-/

namespace DetectorStream.Ev42

open FlatBuffer (Builder Built TableBuilder TableBuilt padding zeros length_zeros)
open LittleEndian (put)

variable {m : Message}

/-! ## Layout -/

/-- A number that is left out when it is zero. -/
def optional (n : UInt64) : Bytes := if n = 0 then [] else put 8 n.toNat

/-- Does the table hold a 64-bit number? -/
def hasNumbers (m : Message) : Bool := m.id ≠ 0 || m.pulseTime ≠ 0

/-- The padding after the numbers of a table, and before the offsets of its fields. -/
def slack (m : Message) : Nat := if hasNumbers m then 4 else 0

/-- The numbers of a table. -/
def numbers (m : Message) : Bytes := optional m.id ++ optional m.pulseTime

/-- The size of the table: an offset, the version, three references and the numbers. -/
def tableSize (m : Message) : Nat := 20 + (numbers m).length + slack m

/-- Where the table lies. -/
def tablePlace (m : Message) : Nat := 8 + slack m + 16

/-- Where the detector ids lie, their number first. -/
def idsPlace (m : Message) : Nat := tablePlace m + tableSize m

/-- The octets of a source name: its length, the name and a zero, filled up to a multiple of four. -/
def nameBytes (m : Message) : Bytes :=
  put 4 m.sourceName.length ++ m.sourceName ++ [0]
    ++ zeros (padding 4 (m.sourceName.length + 1))

/-- The octets of the timestamps: their number and the values. -/
def timestampBytes (m : Message) : Bytes :=
  put 4 m.columns.timestamps.length
    ++ m.columns.timestamps.flatMap fun t => put 4 t.toUInt32.toNat

/-- The octets of the detector ids: their number and the values, filled up so that the values lie at
multiples of eight from the end. -/
def idBytes (m : Message) : Bytes :=
  put 4 m.columns.ids.length
    ++ (m.columns.ids.flatMap fun i => put 8 i.toUInt64.toNat)
    ++ zeros (padding 8 ((timestampBytes m).length + (nameBytes m).length))

/-- Where the timestamps lie. -/
def timestampsPlace (m : Message) : Nat := idsPlace m + (idBytes m).length

/-- Where the source name lies. -/
def namePlace (m : Message) : Nat := timestampsPlace m + (timestampBytes m).length

/-- The list of field offsets: its size, the size of the table, and the offset of each field from
the start of the table. -/
def offsets (m : Message) : List Nat :=
  [16, tableSize m, 8, if m.id = 0 then 0 else 20,
    if m.pulseTime = 0 then 0 else 20 + (optional m.id).length, 12, 16, 6]

/-- The table. A reference is the distance from where it stands to what it refers to. -/
def tableBytes (m : Message) : Bytes :=
  put 4 16 ++ zeros 2 ++ put 2 version
    ++ put 4 (namePlace m - (tablePlace m + 8))
    ++ put 4 (timestampsPlace m - (tablePlace m + 12))
    ++ put 4 (idsPlace m - (tablePlace m + 16))
    ++ numbers m ++ zeros (slack m)

/-- The octets of a message. -/
def image (m : Message) : Bytes :=
  put 4 (tablePlace m) ++ tag ++ zeros (slack m)
    ++ (offsets m).flatMap (put 2) ++ tableBytes m
    ++ idBytes m ++ timestampBytes m ++ nameBytes m

/-! ## Lengths -/

theorem length_optional (n : UInt64) : (optional n).length = if n = 0 then 0 else 8 := by
  unfold optional
  split
  · rfl
  · exact LittleEndian.length_put _ _

theorem slack_eq (m : Message) : slack m = 0 ∨ slack m = 4 := by
  unfold slack
  split
  · exact .inr rfl
  · exact .inl rfl

theorem slack_le (m : Message) : slack m ≤ 4 := by
  have hslack := slack_eq m
  omega

theorem length_numbers_le (m : Message) : (numbers m).length ≤ 16 := by
  unfold numbers
  rw [List.length_append, length_optional, length_optional]
  split <;> split <;> decide

theorem length_tableBytes (m : Message) : (tableBytes m).length = tableSize m := by
  simp [tableBytes, tableSize]
  omega

theorem length_nameBytes (m : Message) :
    (nameBytes m).length = 5 + m.sourceName.length + padding 4 (m.sourceName.length + 1) := by
  simp [nameBytes]
  omega

theorem length_timestampBytes (m : Message) :
    (timestampBytes m).length = 4 + m.columns.timestamps.length * 4 := by
  rw [timestampBytes, List.length_append, LittleEndian.length_put, ← List.flatMap_map,
    FlatBuffer.length_flatMap_put, List.length_map]

theorem length_idBytes (m : Message) :
    (idBytes m).length = 4 + m.columns.ids.length * 8 +
      padding 8 ((timestampBytes m).length + (nameBytes m).length) := by
  rw [idBytes, List.length_append, List.length_append, LittleEndian.length_put, ← List.flatMap_map,
    FlatBuffer.length_flatMap_put, List.length_map, length_zeros]

/-- What the table refers to. -/
def body (m : Message) : Bytes := idBytes m ++ (timestampBytes m ++ nameBytes m)

theorem dvd_nameBytes (m : Message) : 4 ∣ (nameBytes m).length := by
  have hpadded := FlatBuffer.dvd_add_padding (by decide : 0 < 4) (m.sourceName.length + 1)
  rw [length_nameBytes]
  omega

theorem dvd_names (m : Message) : 4 ∣ (timestampBytes m ++ nameBytes m).length := by
  have hname := dvd_nameBytes m
  rw [List.length_append, length_timestampBytes]
  omega

/-- The body ends four octets behind a multiple of eight. -/
theorem length_body (m : Message) : (body m).length % 8 = 4 := by
  have hpadded := FlatBuffer.dvd_add_padding (by decide : 0 < 8)
    ((timestampBytes m).length + (nameBytes m).length)
  rw [body, List.length_append, List.length_append, length_idBytes]
  omega

/-! ## Steps -/

/-- The source name is built. -/
theorem name_built (m : Message) : Built (({} : Builder).text m.sourceName) (nameBytes m) 4 0 := by
  have htext := Built.nothing.text m.sourceName rfl
  have hbytes : put 4 m.sourceName.length ++ (m.sourceName ++
      ([0] ++ (zeros (padding 4 (([] : Bytes).length + (m.sourceName.length + 1))) ++ []))) =
        nameBytes m := by
    simp only [nameBytes, List.append_assoc, List.append_nil, List.length_nil, Nat.zero_add]
  rw [hbytes] at htext
  exact htext.mono (by simp)

/-- The timestamps are built in front of the source name. -/
theorem timestamps_built {b : Builder} (h : Built b (nameBytes m) 4 0) :
    Built (b.words 4 (m.columns.timestamps.map fun t => t.toUInt32.toNat))
      (timestampBytes m ++ nameBytes m) 4 0 := by
  have hdvd := dvd_nameBytes m
  have hwords := h.words (by decide) hdvd (by decide) (by decide)
    (m.columns.timestamps.map fun t => t.toUInt32.toNat)
    (FlatBuffer.padding_eq_zero (Nat.dvd_add hdvd (Nat.dvd_mul_right _ _)))
  rw [List.length_map, List.flatMap_map] at hwords
  simp only [timestampBytes, List.append_assoc]
  exact hwords

/-- The detector ids are built in front of the timestamps. -/
theorem ids_built {b : Builder} (h : Built b (timestampBytes m ++ nameBytes m) 4 0) :
    Built (b.words 8 (m.columns.ids.map fun i => i.toUInt64.toNat)) (body m) 8 4 := by
  have hfill : padding 8 ((timestampBytes m ++ nameBytes m).length +
      8 * (m.columns.ids.map fun i => i.toUInt64.toNat).length) =
        padding 8 ((timestampBytes m).length + (nameBytes m).length) := by
    rw [List.length_append]
    unfold padding
    rw [Nat.add_mul_mod_self_left]
  have hwords := h.words (by decide) (dvd_names m) (by decide) (by decide) _ hfill
  rw [List.length_map, List.flatMap_map] at hwords
  simp only [body, idBytes, List.append_assoc]
  exact hwords

/-- Where the numbers of a table lie, counted from the end; zero for one that is left out. -/
def numberSlots (m : Message) (start : Nat) : List Nat :=
  [0, if m.id = 0 then 0 else (numbers m).length + slack m + start,
    if m.pulseTime = 0 then 0 else start + slack m + 8, 0, 0, 0]

theorem toNat_eq_zero {n : UInt64} : n.toNat = 0 ↔ n = 0 := UInt64.toNat_inj (b := 0)

/-- The numbers of the table and the body behind it. -/
def numbered (m : Message) : Bytes := numbers m ++ (zeros (slack m) ++ body m)

theorem length_numbered (m : Message) :
    (numbered m).length = (numbers m).length + slack m + (body m).length := by
  rw [numbered, List.length_append, List.length_append, length_zeros, Nat.add_assoc]

/-- The numbers are built in front of the body, those that are zero left out. The first of them is
filled up to a multiple of eight. -/
theorem numbers_built {t : TableBuilder}
    (h : TableBuilt t (body m) 8 4 (body m).length (List.replicate 6 0)) :
    TableBuilt ((t.number Slot.pulseTime.index 8 m.pulseTime.toNat 0).number Slot.messageId.index 8
      m.id.toNat 0) (numbered m) 8 4 (body m).length (numberSlots m (body m).length) := by
  have hbody := length_body m
  have hfirst : padding 8 (body m).length = 4 := by
    unfold padding
    omega
  by_cases hpulse : m.pulseTime = 0
  · have habsent := h.absent (toNat_eq_zero.mpr hpulse) Slot.pulseTime.index 8
    by_cases hid : m.id = 0
    · have hboth := habsent.absent (toNat_eq_zero.mpr hid) Slot.messageId.index 8
      simpa [numberSlots, numbered, numbers, optional, slack, hasNumbers, hpulse, hid, zeros] using hboth
    · have hnumber := habsent.number (mt toNat_eq_zero.mp hid) Slot.messageId.index hfirst
      have hslot : 8 + (4 + (body m).length) = 8 + 4 + (body m).length := by omega
      rw [hslot] at hnumber
      simpa [numberSlots, numbered, numbers, optional, slack, hasNumbers, hpulse, hid, Slot.index] using
        hnumber.mono (k := 4) (by decide)
  · have hnumber := h.number (mt toNat_eq_zero.mp hpulse) Slot.pulseTime.index hfirst
    have hslot : 8 + (4 + (body m).length) = (body m).length + 4 + 8 := by omega
    rw [hslot] at hnumber
    by_cases hid : m.id = 0
    · have hboth := hnumber.absent (toNat_eq_zero.mpr hid) Slot.messageId.index 8
      simpa [numberSlots, numbered, numbers, optional, slack, hasNumbers, hpulse, hid, Slot.index] using
        hboth.mono (k := 4) (by decide)
    · have hsecond : padding 8 (put 8 m.pulseTime.toNat ++ (zeros 4 ++ body m)).length = 0 := by
        refine FlatBuffer.padding_eq_zero ?_
        rw [List.length_append, List.length_append, LittleEndian.length_put, length_zeros]
        omega
      have hboth := hnumber.number (mt toNat_eq_zero.mp hid) Slot.messageId.index hsecond
      have hslot' : 8 + (0 + (put 8 m.pulseTime.toNat ++ (zeros 4 ++ body m)).length) =
          16 + 4 + (body m).length := by
        rw [List.length_append, List.length_append, LittleEndian.length_put, length_zeros]
        omega
      rw [hslot'] at hboth
      simpa [numberSlots, numbered, numbers, optional, slack, hasNumbers, hpulse, hid, Slot.index, zeros] using
        hboth.mono (k := 4) (by decide)

/-- The octets of the list of field offsets. -/
def offsetBytes (m : Message) : Bytes := (offsets m).flatMap (put 2)

theorem length_offsetBytes (m : Message) : (offsetBytes m).length = 16 :=
  FlatBuffer.length_flatMap_put (offsets m)

/-- The octets of the numbers are a multiple of eight together with four octets of padding. -/
theorem length_numbers (m : Message) : ((numbers m).length + slack m) % 8 = slack m := by
  unfold slack hasNumbers numbers
  rw [List.length_append, length_optional, length_optional]
  by_cases hid : m.id = 0 <;> by_cases hpulse : m.pulseTime = 0 <;> simp [hid, hpulse]

/-- Where the fields of a table lie, counted from the end. -/
def fieldSlots (m : Message) (start : Nat) : List Nat :=
  let size := (numbers m).length + slack m + start
  [size + 12, if m.id = 0 then 0 else size,
    if m.pulseTime = 0 then 0 else start + slack m + 8, size + 8, size + 4, size + 14]

/-- The offset of a field is how far it lies behind the start of the table. -/
theorem offsets_eq {t : TableBuilder} {start : Nat} (hstart : t.start = start)
    (hslots : t.slots = fieldSlots m start) : t.offsets (tableSize m + start) = offsets m := by
  have hid : 0 < (numbers m).length + slack m + start ∨ m.id = 0 := by
    by_cases hid : m.id = 0
    · exact .inr hid
    · refine .inl ?_
      have hlength : (optional m.id).length = 8 := by rw [length_optional, if_neg hid]
      rw [numbers, List.length_append]
      omega
  have hsize : tableSize m = 20 + (numbers m).length + slack m := rfl
  have hnumbers : (numbers m).length = (optional m.id).length + (optional m.pulseTime).length :=
    List.length_append
  have htrimmed : ((fieldSlots m start).reverse.dropWhile (· == 0)).reverse =
      fieldSlots m start := by
    simp [fieldSlots]
  have hpulse := length_optional m.pulseTime
  unfold TableBuilder.offsets
  rw [hslots, htrimmed, hstart]
  simp only [fieldSlots, offsets, List.map_cons, List.map_nil, List.length_cons, List.length_nil,
    List.cons.injEq, and_true]
  refine ⟨trivial, by omega, by rw [if_neg (by omega)]; omega, ?_, ?_,
    by rw [if_neg (by omega)]; omega, by rw [if_neg (by omega)]; omega,
    by rw [if_neg (by omega)]; omega⟩
  · by_cases hzero : m.id = 0
    · simp only [if_pos hzero, if_true]
    · have hpos := hid.resolve_right hzero
      rw [if_neg hzero, if_neg hzero, if_neg (by omega)]
      omega
  · by_cases hzero : m.pulseTime = 0
    · simp only [if_pos hzero, if_true]
    · rw [if_neg hzero] at hpulse
      rw [if_neg hzero, if_neg hzero, if_neg (by omega)]
      omega

/-! ## The table -/

theorem dvd_numbered (m : Message) : 4 ∣ (numbered m).length := by
  have hbody := length_body m
  have hnumbers := length_numbers m
  have hslack := slack_eq m
  rw [length_numbered]
  omega

/-- The references in front of the numbers. -/
def referred (m : Message) : Bytes :=
  put 4 (namePlace m - (tablePlace m + 8)) ++ (put 4 (timestampsPlace m - (tablePlace m + 12)) ++
    (put 4 (idsPlace m - (tablePlace m + 16)) ++ numbered m))

theorem length_referred (m : Message) : (referred m).length = 12 + (numbered m).length := by
  simp only [referred, List.length_append, LittleEndian.length_put]
  omega

/-- Where the fields of a table lie that have been written before the version, counted from the
end. -/
def referenceSlots (m : Message) : List Nat :=
  (((numberSlots m (body m).length).set Slot.detectorId.index (4 + (numbered m).length)).set
    Slot.timeOfFlight.index (8 + (numbered m).length)).set
      Slot.sourceName.index (12 + (numbered m).length)

/-- The references are built one by one, four octets each. -/
theorem references_built {t : TableBuilder} {ids times name : Nat}
    (h : TableBuilt t (numbered m) 8 4 (body m).length (numberSlots m (body m).length))
    (hids : ids = (body m).length) (htimes : times = (timestampBytes m ++ nameBytes m).length)
    (hname : name = (nameBytes m).length) :
    TableBuilt (((t.reference Slot.detectorId.index ids).reference Slot.timeOfFlight.index
      times).reference Slot.sourceName.index name) (referred m) 8 0 (body m).length
      (referenceSlots m) := by
  have hbody := length_body m
  have hdvd := dvd_numbered m
  have hnumbered := length_numbered m
  have hlong := length_nameBytes m
  rw [List.length_append] at htimes
  have hparts : (body m).length =
      (idBytes m).length + ((timestampBytes m).length + (nameBytes m).length) := by
    rw [body, List.length_append, List.length_append]
  have hfirst := h.reference (by omega : ids ≠ 0) Slot.detectorId.index hdvd
    (show _ = idsPlace m - (tablePlace m + 16) by
      unfold idsPlace tableSize
      omega)
  have hlength : ∀ (n : Nat) (bs : Bytes), (put 4 n ++ bs).length = 4 + bs.length := fun n bs => by
    rw [List.length_append, LittleEndian.length_put]
  have hsecond := hfirst.reference (by omega : times ≠ 0) Slot.timeOfFlight.index
    (by rw [hlength]; omega)
    (show _ = timestampsPlace m - (tablePlace m + 12) by
      rw [hlength]
      unfold timestampsPlace idsPlace tableSize
      omega)
  have hthird := hsecond.reference (by omega : name ≠ 0) Slot.sourceName.index
    (by rw [hlength, hlength]; omega)
    (show _ = namePlace m - (tablePlace m + 8) by
      rw [hlength, hlength]
      unfold namePlace timestampsPlace idsPlace tableSize
      omega)
  simp only [hlength, ← Nat.add_assoc] at hthird
  exact hthird

/-- Once the version is written, the fields lie where the table has them. -/
theorem referenceSlots_eq (m : Message) :
    (referenceSlots m).set Slot.version.index (14 + (numbered m).length) =
      fieldSlots m (body m).length := by
  rw [referenceSlots, length_numbered]
  simp only [numberSlots, fieldSlots, Slot.index, List.set, List.cons.injEq, and_true, true_and]
  omega

/-- The table is closed in front of its references: the version, and the list of the offsets of all
fields. -/
theorem table_built {t : TableBuilder}
    (h : TableBuilt t (referred m) 8 0 (body m).length (referenceSlots m)) :
    (t.number Slot.version.index 2 version 0).close.2 = tableSize m + (body m).length ∧
      Built (t.number Slot.version.index 2 version 0).close.1
        (offsetBytes m ++ (tableBytes m ++ body m)) 8 0 := by
  have hdvd := dvd_numbered m
  have hreferred := length_referred m
  have hversion := h.number (by decide : version ≠ 0) Slot.version.index
    (FlatBuffer.padding_eq_zero (by omega : 2 ∣ (referred m).length))
  have hlength : (put 2 version ++ (zeros 0 ++ referred m)).length = 14 + (numbered m).length := by
    rw [List.length_append, List.length_append, LittleEndian.length_put, length_zeros, hreferred]
    omega
  have hfill : padding 4 (put 2 version ++ (zeros 0 ++ referred m)).length = 2 := by
    rw [hlength]
    unfold padding
    omega
  obtain ⟨hplace, hclosed⟩ := hversion.close (by decide) (by decide) hfill
  have hsize : 2 + (put 2 version ++ (zeros 0 ++ referred m)).length + 4 =
      tableSize m + (body m).length := by
    rw [hlength, length_numbered, tableSize]
    omega
  have hslots := hversion.slots_eq
  rw [hreferred, Nat.zero_add, ← Nat.add_assoc, referenceSlots_eq] at hslots
  have hlist := offsets_eq hversion.start_eq hslots
  have hcount : (offsets m).length = 8 := rfl
  rw [hsize, hlist, hcount] at hclosed
  refine ⟨hplace.trans hsize, ?_⟩
  have hbytes : offsetBytes m ++ (tableBytes m ++ body m) = (offsets m).flatMap (put 2) ++
      (put 4 (2 * 8) ++ (zeros 2 ++ (put 2 version ++ (zeros 0 ++ referred m)))) := by
    simp only [offsetBytes, tableBytes, referred, numbered, List.append_assoc]
    rfl
  rw [hbytes]
  exact hclosed

/-! ## The image -/

theorem image_eq (m : Message) :
    image m = put 4 (tablePlace m) ++ (tag ++ (zeros (slack m) ++
      (offsetBytes m ++ (tableBytes m ++ body m)))) := by
  simp only [image, offsetBytes, body, List.append_assoc]

theorem length_image_body (m : Message) :
    (image m).length = tablePlace m + tableSize m + (body m).length := by
  have htag : tag.length = 4 := rfl
  rw [image_eq]
  simp only [List.length_append, LittleEndian.length_put, htag, length_zeros, length_offsetBytes,
    length_tableBytes, tablePlace]
  omega

/-- **What is built is the image**, and it needs memory for eight octets more, and one. -/
theorem build_eq (m : Message) :
    (build m).octets = image m ∧ (build m).room = (image m).length + 8 := by
  have hname := name_built m
  have htimes := timestamps_built hname
  have hids := ids_built htimes
  obtain ⟨closed, hbuild, hroot, hclosed⟩ : ∃ closed : Builder × Nat,
      build m = closed.1.finish closed.2 tag ∧ closed.2 = tableSize m + (body m).length ∧
        Built closed.1 (offsetBytes m ++ (tableBytes m ++ body m)) 8 0 :=
    ⟨_, rfl, table_built (references_built (numbers_built (hids.table 6)) hids.size_eq htimes.size_eq
      hname.size_eq)⟩
  have hlength : (offsetBytes m ++ (tableBytes m ++ body m)).length =
      16 + tableSize m + (body m).length := by
    rw [List.length_append, List.length_append, length_offsetBytes, length_tableBytes,
      Nat.add_assoc]
  have hfill : padding 8 ((offsetBytes m ++ (tableBytes m ++ body m)).length + 8) = slack m := by
    have hbody := length_body m
    have hnumbers := length_numbers m
    have hslack := slack_eq m
    rw [hlength, tableSize]
    unfold padding
    omega
  obtain ⟨hoctets, hroom⟩ := hclosed.finish (by decide) (show tag.length = 4 from rfl) hfill
    (tableSize m + (body m).length)
  rw [hbuild, hroot, hoctets, hroom, hlength, length_image_body, image_eq, tablePlace]
  constructor
  · congr 2
    omega
  · omega

/-- **What encoding gives**: the image of a message that may be encoded, if the memory can grow by
more than eight octets beyond it. -/
theorem encodeIn_eq (capacity : Nat) (m : Message) :
    encodeIn capacity m =
      match m.refusal? with
      | some f => .error f
      | none =>
        if (image m).length + 8 < FlatBuffer.reach capacity then .ok (image m)
        else .error (.report .encoding ("flatbuffer construction failed: " ++ Diagnostic.veil)) := by
  obtain ⟨hoctets, hroom⟩ := build_eq m
  unfold encodeIn
  cases m.refusal? with
  | some f => rfl
  | none => simp only [hoctets, hroom]

/-- What is encoded has columns of the same length and is an image below two gigabytes. -/
theorem encodeIn_eq_ok {capacity : Nat} {buf : Bytes} (h : encodeIn capacity m = .ok buf)
    (hcapacity : capacity < 2 ^ 31) :
    buf = image m ∧ m.columns.ids.length = m.columns.timestamps.length ∧
      m.size ≤ Message.maxEvents ∧ (image m).length + 8 < 2 ^ 31 := by
  have hreach := FlatBuffer.reach_lt hcapacity
  rw [encodeIn_eq] at h
  cases hr : m.refusal? with
  | some f =>
    rw [hr] at h
    cases h
  | none =>
    rw [hr] at h
    simp only at h
    split at h
    · rename_i hroom
      cases h
      unfold Message.refusal? at hr
      simp only at hr
      split at hr
      · cases hr
      · rename_i hne
        split at hr
        · cases hr
        · rename_i hmany
          exact ⟨rfl, not_not.mp hne, Nat.le_of_not_lt hmany, by omega⟩
    · cases h

theorem encode_eq_ok {buf : Bytes} (h : encode m = .ok buf) :
    buf = image m ∧ m.columns.ids.length = m.columns.timestamps.length ∧
      (image m).length < 2 ^ 31 := by
  obtain ⟨hbuf, hcolumns, -, hlt⟩ := encodeIn_eq_ok h (by decide)
  exact ⟨hbuf, hcolumns, by omega⟩

/-- Every message that may be encoded is, if its image is shorter than a gigabyte. -/
theorem encodeIn_image {capacity : Nat} (h : m.refusal? = none)
    (hlength : (image m).length + 8 < 2 ^ 30) : encodeIn capacity m = .ok (image m) := by
  have hreach := FlatBuffer.gigabyte_le_reach capacity
  rw [encodeIn_eq, h]
  simp only
  rw [if_pos (by omega)]

theorem encode_image (h : m.refusal? = none) (hlength : (image m).length + 8 < 2 ^ 30) :
    encode m = .ok (image m) :=
  encodeIn_image h hlength

end DetectorStream.Ev42
