import DetectorStream.Proofs.Wire.RoundTrip

/-!
# Size and alignment of ev42 messages

A message is padded while it is built from its end. Only the last padding makes multiples from the
end into multiples from the start. Then every number lies at a multiple of its size, whatever the
source name, the number of events and the numbers that are left out, and the padding takes a bounded
number of octets: the buffer is not much larger than its events and its name.

* `length_image_le`, `dvd_length_image`: the size of a message.
* `vector_timestamps`, `vector_ids`, `number_id`, `number_pulseTime`: where its numbers lie.
* `NumberAt`, `VectorAt`: an aligned number or vector of a table.
* **`Aligned`**, **`encodeIn_aligned`**: every encoded message is aligned and bounded, in memory of
  any size that is used again.
-/

namespace DetectorStream.Ev42

open FlatBuffer (Table Holds word? padding zeros length_zeros padding_lt)
open LittleEndian (put)

variable {m : Message} {buf : Bytes}

/-! ## Size -/

/-- The numbers of a table with the padding behind them are a multiple of eight once the padding in
front of the field offsets is added. -/
theorem dvd_numbers (m : Message) : ((numbers m).length + slack m + slack m) % 8 = 0 := by
  have hnumbers := length_numbers m
  have hslack := slack_eq m
  omega

/-- The whole message is a multiple of eight octets long. -/
theorem dvd_length_image (m : Message) : 8 ∣ (image m).length := by
  have hnumbers := dvd_numbers m
  have hbody := length_body m
  rw [length_image_body, tablePlace, tableSize]
  omega

/-- A message takes twelve octets for each event, its source name, and less than a hundred octets. -/
theorem length_image_le (hcolumns : m.columns.ids.length = m.columns.timestamps.length) :
    12 * m.size + m.sourceName.length ≤ (image m).length ∧
      (image m).length ≤ 12 * m.size + m.sourceName.length + 128 := by
  have hnumbers := length_numbers_le m
  have hslack := slack_le m
  have hname := padding_lt (by decide : 0 < 4) (m.sourceName.length + 1)
  have hids := padding_lt (by decide : 0 < 8) ((timestampBytes m).length + (nameBytes m).length)
  rw [length_image_body, body, List.length_append, List.length_append, length_idBytes,
    length_timestampBytes, length_nameBytes, tablePlace, tableSize, Message.size, ← hcolumns] at *
  omega

/-! ## Places -/

/-- The detector ids lie at a multiple of eight, behind their number. -/
theorem dvd_idsPlace (m : Message) : 8 ∣ idsPlace m + 4 := by
  have hnumbers := dvd_numbers m
  rw [idsPlace, tablePlace, tableSize]
  omega

/-- The timestamps lie at a multiple of four, behind their number. -/
theorem dvd_timestampsPlace (m : Message) : 4 ∣ timestampsPlace m := by
  have hids := dvd_idsPlace m
  have hnames := dvd_names m
  have hpadded := FlatBuffer.dvd_add_padding (by decide : 0 < 8)
    ((timestampBytes m).length + (nameBytes m).length)
  rw [List.length_append] at hnames
  rw [timestampsPlace, length_idBytes]
  omega

/-- **A vector of numbers of a table, aligned**: its length lies at a multiple of four, and in front
of the numbers, which lie at multiples of `multiple`, one behind the other. -/
structure VectorAt (t : Table) (slot : Slot) (width multiple : Nat) (ns : List Nat) (start : Nat) :
    Prop where
  found : t.vector? slot.index = some (some (ns.length, start))
  length_at : 4 ≤ start ∧ word? t.buffer 4 (start - 4) = some ns.length
  dvd_length : 4 ∣ start - 4
  dvd_start : multiple ∣ start
  number_at : ∀ i n, ns[i]? = some n → word? t.buffer width (start + i * width) = some n

/-- **A 64-bit number of a table, aligned**: it is left out if it is zero, and lies at a multiple of
eight otherwise. -/
inductive NumberAt (t : Table) (slot : Slot) (n : UInt64) : Prop
  | absent (h : n = 0) (found : t.field? slot.index = some none)
  | present (place : Nat) (h : n ≠ 0) (found : t.field? slot.index = some (some place))
      (dvd : 8 ∣ place) (number_at : word? t.buffer 8 place = some n.toNat)

/-- A vector that stands in the message is found by its reference. -/
theorem vectorAt {slot : Slot} {o v width multiple : Nat} {ns : List Nat}
    (hslot : (fieldOffsets m)[slot.index]? = some o) (ho : o ≠ 0) (hle : tablePlace m + o ≤ v)
    (href : Holds (image m) (tablePlace m + o) (put 4 (v - (tablePlace m + o))))
    (hrun : Holds (image m) v (put 4 ns.length ++ ns.flatMap (put width)))
    (hlt : (image m).length < 2 ^ 32) (hwidth : 0 < width) (hfit : ∀ n ∈ ns, n < 256 ^ width)
    (hlength : 4 ∣ v) (hstart : multiple ∣ v + 4) :
    VectorAt (table m) slot width multiple ns (v + 4) := by
  have hend := hrun.le_length
  rw [List.length_append, LittleEndian.length_put, FlatBuffer.length_flatMap_put] at hend
  have hcount : ns.length ≤ ns.length * width := Nat.le_mul_of_pos_right _ hwidth
  have hnumbers : Holds (image m) (v + 4) (ns.flatMap (put width)) := by
    have hright := hrun.right
    rwa [LittleEndian.length_put] at hright
  have hfound := (tabled m).shaped.vector?_eq hslot ho hle (by omega) href hrun.left (by omega)
  refine ⟨hfound, ⟨Nat.le_add_left 4 v, ?_⟩, ?_, hstart, fun i n hn => ?_⟩
  · rw [Nat.add_sub_cancel]
    exact hrun.left.word?_eq (by omega)
  · rwa [Nat.add_sub_cancel]
  · exact (hnumbers.entry hn).word?_eq (hfit n (List.mem_of_getElem? hn))

theorem vector_ids (hlt : (image m).length < 2 ^ 32) :
    VectorAt (table m) .detectorId 8 8 (m.columns.ids.map fun i => i.toUInt64.toNat)
      (idsPlace m + 4) := by
  have hplace := dvd_idsPlace m
  obtain ⟨-, -, -, -, href, -⟩ := (tabled m).table_holds
  obtain ⟨-, -, -, -, hids, -⟩ := image_holds m
  refine vectorAt (o := 16) rfl (by decide) ?_ href ?_ hlt (by decide) ?_ (by omega) hplace
  · rw [idsPlace, tableSize]
    omega
  · rw [List.length_map, List.flatMap_map]
    exact hids.left
  · intro n hn
    obtain ⟨i, -, rfl⟩ := List.mem_map.mp hn
    exact i.toUInt64.toNat_lt

theorem vector_timestamps (hlt : (image m).length < 2 ^ 32) :
    VectorAt (table m) .timeOfFlight 4 4 (m.columns.timestamps.map fun t => t.toUInt32.toNat)
      (timestampsPlace m + 4) := by
  have hplace := dvd_timestampsPlace m
  obtain ⟨-, -, -, href, -, -⟩ := (tabled m).table_holds
  obtain ⟨-, -, -, -, -, htimestamps, -⟩ := image_holds m
  refine vectorAt (o := 12) rfl (by decide) ?_ href ?_ hlt (by decide) ?_ hplace (by omega)
  · rw [timestampsPlace, idsPlace, tableSize]
    omega
  · rw [List.length_map, List.flatMap_map]
    exact htimestamps
  · intro n hn
    obtain ⟨t, -, rfl⟩ := List.mem_map.mp hn
    exact t.toUInt32.toNat_lt

/-- A number that stands behind the references, or is left out. -/
theorem numberAt {slot : Slot} {o : Nat} {n : UInt64}
    (hslot : (fieldOffsets m)[slot.index]? = some (if n = 0 then 0 else o))
    (hn : Holds (image m) (tablePlace m + o) (optional n)) (ho : 0 < o) (hle : o ≤ 28)
    (hdvd : n ≠ 0 → 8 ∣ tablePlace m + o) : NumberAt (table m) slot n := by
  have hplace := tablePlace_lt m
  have hword := n.toNat_lt
  by_cases hzero : n = 0
  · rw [if_pos hzero] at hslot
    refine .absent hzero ?_
    unfold Table.field?
    rw [(tabled m).shaped.offset?_eq hslot]
    rfl
  · rw [if_neg hzero] at hslot
    rw [optional, if_neg hzero] at hn
    have hfield := (tabled m).shaped.field?_eq hslot (by omega)
      (show tablePlace m + o < 2 ^ 32 by omega)
    exact .present (tablePlace m + o) hzero hfield (hdvd hzero) (hn.word?_eq (by omega))

/-- The table of a message with a number lies four octets behind a multiple of eight. -/
theorem tablePlace_eq (h : m.id ≠ 0 ∨ m.pulseTime ≠ 0) : tablePlace m = 28 := by
  have hnumbers : hasNumbers m = true := by
    unfold hasNumbers
    simpa using h
  rw [tablePlace, slack, if_pos hnumbers]

theorem number_id (m : Message) : NumberAt (table m) .messageId m.id := by
  obtain ⟨-, -, -, -, -, hnumbers⟩ := (tabled m).table_holds
  refine numberAt rfl hnumbers.left (by decide) (by decide) fun hid => ?_
  rw [tablePlace_eq (.inl hid)]
  decide

theorem number_pulseTime (m : Message) : NumberAt (table m) .pulseTime m.pulseTime := by
  obtain ⟨-, -, -, -, -, hnumbers⟩ := (tabled m).table_holds
  have hid := length_optional m.id
  have hpulse := hnumbers.right
  rw [Nat.add_assoc] at hpulse
  refine numberAt (o := 20 + (optional m.id).length) rfl hpulse (by omega)
    (by split at hid <;> omega) fun hne => ?_
  rw [tablePlace_eq (.inr hne)]
  split at hid <;> omega

/-! ## Encoded messages -/

/-- **The buffer of a message, aligned and bounded.** -/
structure Aligned (m : Message) (buf : Bytes) : Prop where
  dvd_length : 8 ∣ buf.length
  le_length : 12 * m.size + m.sourceName.length ≤ buf.length
  length_le : buf.length ≤ 12 * m.size + m.sourceName.length + 128
  /-- A message with as many events as are allowed and a name that is not too long stays below two
  gigabytes. -/
  length_lt : m.sourceName.length ≤ 3968 → buf.length < 2 ^ 31
  table : ∃ t ids timestamps, Table.root? buf = some t ∧ t.buffer = buf ∧
    VectorAt t .detectorId 8 8 (m.columns.ids.map fun i => i.toUInt64.toNat) ids ∧
    VectorAt t .timeOfFlight 4 4 (m.columns.timestamps.map fun t => t.toUInt32.toNat) timestamps ∧
    NumberAt t .messageId m.id ∧ NumberAt t .pulseTime m.pulseTime

/-- **Every message that is encoded is aligned and bounded**, in new memory and in memory that has
been used before. -/
theorem encodeIn_aligned {capacity : Nat} (hcapacity : capacity ≤ usedMemory)
    (h : encodeIn capacity m = .ok buf) : Aligned m buf := by
  obtain ⟨rfl, hcolumns, hsize, hlt⟩ :=
    encodeIn_eq_ok h (Nat.lt_of_le_of_lt hcapacity (by decide))
  obtain ⟨hge, hle⟩ := length_image_le hcolumns
  have hwrap : (image m).length < 2 ^ 32 := by omega
  obtain ⟨hplace, -⟩ := image_holds m
  have hplaced := tablePlace_lt m
  have hroot : Table.root? (image m) = some (table m) := by
    unfold Table.root?
    rw [hplace.word?_eq (by omega)]
    rfl
  refine ⟨dvd_length_image m, hge, hle, fun hname => ?_, table m, _, _, hroot, rfl,
    vector_ids hwrap, vector_timestamps hwrap, number_id m, number_pulseTime m⟩
  have hmost : Message.maxEvents * 12 + 4096 < 2 ^ 31 := by decide
  omega

/-- Three events under a name of five octets, with one number left out: 120 octets. -/
theorem encodeIn_aligned_three :
    let m : Message := ⟨"abcde", 0, 7, ⟨[1, -2, 3], [4, -5, 6]⟩⟩
    newMemory ≤ usedMemory ∧ ∃ buf, encodeIn newMemory m = .ok buf ∧ Aligned m buf ∧
      buf.length = 120 := by
  intro m
  have hencode : encodeIn newMemory m = .ok (image m) := encode_image rfl (by decide)
  exact ⟨by decide, image m, hencode, encodeIn_aligned (by decide) hencode, by decide⟩

end DetectorStream.Ev42
