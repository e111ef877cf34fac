import DetectorStream.Proofs.FlatBuffer.Reading
import DetectorStream.Proofs.Wire.Layout

/-!
# Reading back an ev42 message

The parts of an ev42 message stand one after the other, and what stands before a part has a known
length: the place of each part is where the layout says it is. From there every field of the table
is read back, those that are left out as zeros.

* `image_holds`: where the parts of a message stand; `nameStart`, `nameEnd`: where the source name
  stands, the last of them.
* `Tabled`: the table of a message, in a buffer that may lack the source name and what follows it.
* `nameIn`: what stands in the memory of such a buffer in place of the source name.
* `Tabled.column_eq`: a column that the table refers to.
* **`Tabled.fields?_eq`**: the fields of such a table are the message with that name.
* **`Tabled.decode_eq`**: so is what the buffer is decoded to.
* **`decode_encode`**: decoding an encoded message gives the message.
-/

namespace DetectorStream.Ev42

open FlatBuffer (Table Holds Shaped padding zeros length_zeros)
open LittleEndian (put)

variable {m : Message} {n : Nat}

/-! ## Where the parts stand -/

/-- The parts of a message stand where the layout says. -/
theorem image_holds (m : Message) :
    Holds (image m) 0 (put 4 (tablePlace m)) ∧ Holds (image m) 4 tag ∧
      Holds (image m) (8 + slack m) (offsetBytes m) ∧
      Holds (image m) (tablePlace m) (tableBytes m) ∧
      Holds (image m) (idsPlace m) (idBytes m) ∧
      Holds (image m) (timestampsPlace m) (timestampBytes m) ∧
      Holds (image m) (namePlace m) (nameBytes m) := by
  have h : Holds (image m) 0 (image m) := Holds.whole (image m)
  have htag : (put 4 (tablePlace m) ++ tag).length = 8 := by simp [tag]
  have hoffsets : (put 4 (tablePlace m) ++ tag ++ zeros (slack m)).length = 8 + slack m := by
    rw [List.length_append, htag, length_zeros]
  have htable : (put 4 (tablePlace m) ++ tag ++ zeros (slack m) ++ offsetBytes m).length =
      tablePlace m := by
    rw [List.length_append, hoffsets, length_offsetBytes]
    rfl
  have hids : (put 4 (tablePlace m) ++ tag ++ zeros (slack m) ++ offsetBytes m ++
      tableBytes m).length = idsPlace m := by
    rw [List.length_append, htable, length_tableBytes]
    rfl
  have htimestamps : (put 4 (tablePlace m) ++ tag ++ zeros (slack m) ++ offsetBytes m ++
      tableBytes m ++ idBytes m).length = timestampsPlace m := by
    rw [List.length_append, hids]
    rfl
  have hname : (put 4 (tablePlace m) ++ tag ++ zeros (slack m) ++ offsetBytes m ++
      tableBytes m ++ idBytes m ++ timestampBytes m).length = namePlace m := by
    rw [List.length_append, htimestamps]
    rfl
  -- the parts are appended one by one, so each is the right end of what precedes the next
  refine ⟨h.left.left.left.left.left.left.left, ?_, ?_, ?_, ?_, ?_, ?_⟩
  · have hpart := h.left.left.left.left.left.left.right
    rwa [Nat.zero_add, LittleEndian.length_put] at hpart
  · have hpart := h.left.left.left.left.right
    rwa [Nat.zero_add, hoffsets] at hpart
  · have hpart := h.left.left.left.right
    rwa [Nat.zero_add, ← offsetBytes, htable] at hpart
  · have hpart := h.left.left.right
    rwa [Nat.zero_add, ← offsetBytes, hids] at hpart
  · have hpart := h.left.right
    rwa [Nat.zero_add, ← offsetBytes, htimestamps] at hpart
  · have hpart := h.right
    rwa [Nat.zero_add, ← offsetBytes, hname] at hpart

/-- Where the source name of a message starts, behind its length. -/
def nameStart (m : Message) : Nat := namePlace m + 4

/-- Where the source name of a message ends. Nothing but a zero and the padding follows. -/
def nameEnd (m : Message) : Nat := nameStart m + m.sourceName.length

theorem length_image (m : Message) :
    (image m).length = nameEnd m + 1 + padding 4 (m.sourceName.length + 1) := by
  have hoffsets := length_offsetBytes m
  unfold offsetBytes at hoffsets
  simp [image, tag, hoffsets, length_tableBytes, nameBytes, nameEnd, nameStart, namePlace,
    timestampsPlace, idsPlace, tablePlace]
  omega

/-! ## Tables of a message -/

/-- **The table of a message in a buffer that begins like the message**, at least up to the start of
the source name. Anything may lie behind the buffer. -/
structure Tabled (t : Table) (m : Message) : Prop where
  place_eq : t.place = tablePlace m
  begins : t.buffer <+: image m
  long : nameStart m ≤ t.buffer.length

/-- The table of a message in all of its octets. -/
def table (m : Message) : Table := { buffer := image m, place := tablePlace m }

theorem nameStart_le_nameEnd (m : Message) : nameStart m ≤ nameEnd m := Nat.le_add_right _ _

theorem nameEnd_le_length (m : Message) : nameEnd m ≤ (image m).length := by
  rw [length_image]
  omega

theorem tabled (m : Message) : Tabled (table m) m :=
  ⟨rfl, List.prefix_rfl, Nat.le_trans (nameStart_le_nameEnd m) (nameEnd_le_length m)⟩

variable {t : Table}

/-- What stands in a message before its source name stands in the buffer. -/
theorem Tabled.holds {place : Nat} {bs : Bytes} (h : Tabled t m) (hm : Holds (image m) place bs)
    (hend : place + bs.length ≤ nameStart m) : Holds t.buffer place bs :=
  hm.of_head h.begins (Nat.le_trans hend h.long)

theorem tablePlace_lt (m : Message) : tablePlace m + 28 < 2 ^ 16 := by
  have hslack := slack_le m
  unfold tablePlace
  omega

theorem tablePlace_le_nameStart (m : Message) : tablePlace m + tableSize m ≤ nameStart m := by
  unfold nameStart namePlace timestampsPlace idsPlace
  omega

/-- The parts of the table of a message. -/
theorem Tabled.table_holds (h : Tabled t m) :
    Holds t.buffer (tablePlace m) (put 4 16) ∧ Holds t.buffer (tablePlace m + 6) (put 2 version) ∧
      Holds t.buffer (tablePlace m + 8) (put 4 (namePlace m - (tablePlace m + 8))) ∧
      Holds t.buffer (tablePlace m + 12) (put 4 (timestampsPlace m - (tablePlace m + 12))) ∧
      Holds t.buffer (tablePlace m + 16) (put 4 (idsPlace m - (tablePlace m + 16))) ∧
      Holds t.buffer (tablePlace m + 20) (numbers m) := by
  obtain ⟨-, -, -, hm, -⟩ := image_holds m
  have hall := h.holds hm (by rw [length_tableBytes]; exact tablePlace_le_nameStart m)
  unfold tableBytes at hall
  have hlength : ∀ {xs ys : Bytes} {n : Nat}, Holds t.buffer (tablePlace m) (xs ++ ys) →
      xs.length = n → Holds t.buffer (tablePlace m + n) ys := by
    rintro xs ys n h rfl
    exact h.right
  refine ⟨hall.left.left.left.left.left.left.left, hlength hall.left.left.left.left.left (by simp),
    hlength hall.left.left.left.left (by simp), hlength hall.left.left.left (by simp),
    hlength hall.left.left (by simp), hlength hall.left (by simp)⟩

/-- The offsets of the fields. -/
def fieldOffsets (m : Message) : List Nat :=
  [8, if m.id = 0 then 0 else 20,
    if m.pulseTime = 0 then 0 else 20 + (optional m.id).length, 12, 16, 6]

theorem fieldOffsets_le (m : Message) : ∀ o ∈ fieldOffsets m, o ≤ 28 := by
  have hid := length_optional m.id
  intro o ho
  simp only [fieldOffsets, List.mem_cons, List.not_mem_nil, or_false] at ho
  rcases ho with rfl | rfl | rfl | rfl | rfl | rfl
  · decide
  · split <;> decide
  · split
    · decide
    · split at hid <;> omega
  · decide
  · decide
  · decide

/-- **The list of field offsets lies sixteen octets before the table**, in any buffer where the list
and the distance to it stand as in the message. -/
theorem shaped_of_holds (hplace : t.place = tablePlace m)
    (hback : Holds t.buffer (tablePlace m) (put 4 16))
    (hoffsets : Holds t.buffer (8 + slack m) (offsetBytes m)) :
    Shaped t (8 + slack m) (tableSize m) (fieldOffsets m) := by
  have hslack := slack_le m
  have hnumbers := length_numbers_le m
  have htable : tablePlace m = 8 + slack m + 16 := rfl
  have hlist : 4 + 2 * (fieldOffsets m).length = 16 := rfl
  refine ⟨?_, ?_, ?_, hoffsets, ?_, ?_⟩
  · rw [hplace]
    omega
  · rw [hplace]
    exact Nat.le_add_right _ _
  · rw [hplace]
    rwa [htable, Nat.add_sub_cancel_left, ← htable]
  · intro o ho
    rcases List.mem_cons.mp ho with rfl | ho
    · omega
    rcases List.mem_cons.mp ho with rfl | ho
    · unfold tableSize
      omega
    · have hle := fieldOffsets_le m o ho
      omega
  · rw [hlist]
    omega

theorem Tabled.shaped (h : Tabled t m) :
    Shaped t (8 + slack m) (tableSize m) (fieldOffsets m) := by
  have htable : tablePlace m = 8 + slack m + 16 := rfl
  have hend := tablePlace_le_nameStart m
  obtain ⟨-, -, hm, -⟩ := image_holds m
  obtain ⟨hback, -⟩ := h.table_holds
  exact shaped_of_holds h.place_eq hback (h.holds hm (by rw [length_offsetBytes]; omega))

/-! ## The fields -/

theorem Tabled.version_eq (h : Tabled t m) :
    t.number? Slot.version.index 2 0 = some version := by
  have hlt := tablePlace_lt m
  obtain ⟨-, hversion, -⟩ := h.table_holds
  rw [← h.place_eq] at hlt hversion
  exact h.shaped.number?_eq (o := 6) rfl (by decide) (by omega) hversion (by decide) 0

/-- A number of the table is read back, whether it is left out or not. -/
theorem Tabled.optional_eq (h : Tabled t m) {slot o : Nat} {x : UInt64}
    (ho : (fieldOffsets m)[slot]? = some (if x = 0 then 0 else o)) (h0 : o ≠ 0) (hle : o ≤ 28)
    (hx : Holds t.buffer (tablePlace m + o) (optional x)) :
    t.number? slot 8 0 = some x.toNat := by
  have hlt := tablePlace_lt m
  rw [← h.place_eq] at hlt hx
  by_cases hzero : x = 0
  · rw [if_pos hzero] at ho
    rw [h.shaped.number?_absent ho, hzero]
    rfl
  · rw [if_neg hzero] at ho
    unfold optional at hx
    rw [if_neg hzero] at hx
    exact h.shaped.number?_eq ho h0 (by omega) hx (by have := x.toNat_lt; omega) 0

theorem Tabled.id_eq (h : Tabled t m) : t.number? Slot.messageId.index 8 0 = some m.id.toNat := by
  obtain ⟨-, -, -, -, -, hnumbers⟩ := h.table_holds
  exact h.optional_eq rfl (by decide) (by decide) hnumbers.left

theorem Tabled.pulseTime_eq (h : Tabled t m) :
    t.number? Slot.pulseTime.index 8 0 = some m.pulseTime.toNat := by
  obtain ⟨-, -, -, -, -, hnumbers⟩ := h.table_holds
  have hlength := length_optional m.id
  have hle : (optional m.id).length ≤ 8 := by split at hlength <;> omega
  refine h.optional_eq (o := 20 + (optional m.id).length) rfl (by omega) (by omega) ?_
  rw [← Nat.add_assoc]
  exact hnumbers.right

/-- The length of the source name. -/
theorem Tabled.length_holds (h : Tabled t m) :
    Holds t.buffer (namePlace m) (put 4 m.sourceName.length) := by
  obtain ⟨-, -, -, -, -, -, hname⟩ := image_holds m
  refine h.holds hname.left.left.left ?_
  rw [LittleEndian.length_put]
  exact Nat.le_refl _

/-- The reference to the source name, which does not lead back. -/
theorem Tabled.name_reference (h : Tabled t m) :
    t.place + 8 ≤ namePlace m ∧
      Holds t.buffer (t.place + 8) (put 4 (namePlace m - (t.place + 8))) := by
  obtain ⟨-, -, href, -⟩ := h.table_holds
  rw [h.place_eq]
  refine ⟨?_, href⟩
  simp only [namePlace, timestampsPlace, idsPlace, tableSize]
  omega

/-- What stands in octets in place of the source name of a message. -/
def nameIn (octets : Bytes) (m : Message) : Text :=
  (octets.drop (nameStart m)).take m.sourceName.length

/-- **The source name is read from the memory**, if all of it stands there. -/
theorem Tabled.name_eq (h : Tabled t m) (hlt : (image m).length < 2 ^ 32) :
    t.text? Slot.sourceName.index =
      if nameEnd m ≤ t.memory.length then some (some (nameIn t.memory m)) else none := by
  have hend := nameEnd_le_length m
  obtain ⟨hle, href⟩ := h.name_reference
  unfold nameEnd nameStart at hend
  exact h.shaped.text?_eq (o := 8) rfl (by decide) hle (by omega) href h.length_holds

/-- **A column is read back** if its numbers stand where the table refers to. -/
theorem Tabled.column_eq {α : Type} {slot o w place : Nat} {xs : List α} {word : α → Nat}
    (h : Tabled t m) (hlt : (image m).length < 2 ^ 32) (ho : (fieldOffsets m)[slot]? = some o)
    (h0 : o ≠ 0) (hle : tablePlace m + o ≤ place)
    (href : Holds t.buffer (tablePlace m + o) (put 4 (place - (tablePlace m + o))))
    (hrun : Holds t.buffer place (put 4 xs.length ++ xs.flatMap fun x => put w (word x)))
    (hw : 0 < w) (hword : ∀ x, word x < 256 ^ w) :
    t.words? slot w = some (some (xs.map word)) := by
  rw [← h.place_eq] at href hle
  refine h.shaped.words?_eq ho h0 hle (Nat.lt_of_le_of_lt h.begins.length_le hlt) href ?_ hw ?_
  · rwa [List.length_map, List.flatMap_map]
  · intro n hn
    obtain ⟨x, -, rfl⟩ := List.mem_map.mp hn
    exact hword x

theorem Tabled.timestamps_eq (h : Tabled t m) (hlt : (image m).length < 2 ^ 32) :
    t.words? Slot.timeOfFlight.index 4 =
      some (some (m.columns.timestamps.map fun t => t.toUInt32.toNat)) := by
  obtain ⟨-, -, -, href, -⟩ := h.table_holds
  obtain ⟨-, -, -, -, -, hm, -⟩ := image_holds m
  have hle : tablePlace m + 12 ≤ timestampsPlace m := by
    simp only [timestampsPlace, idsPlace, tableSize]
    omega
  have hend : timestampsPlace m + (timestampBytes m).length ≤ nameStart m := by
    unfold nameStart namePlace
    omega
  exact h.column_eq hlt rfl (by decide) hle href (h.holds hm hend) (by decide)
    fun t => t.toUInt32.toNat_lt

theorem Tabled.ids_eq (h : Tabled t m) (hlt : (image m).length < 2 ^ 32) :
    t.words? Slot.detectorId.index 8 =
      some (some (m.columns.ids.map fun i => i.toUInt64.toNat)) := by
  obtain ⟨-, -, -, -, href, -⟩ := h.table_holds
  obtain ⟨-, -, -, -, hm, -⟩ := image_holds m
  have hle : tablePlace m + 16 ≤ idsPlace m := by
    simp only [idsPlace, tableSize]
    omega
  have hend : idsPlace m + (idBytes m).length ≤ nameStart m := by
    unfold nameStart namePlace timestampsPlace
    omega
  exact h.column_eq hlt rfl (by decide) hle href (h.holds hm hend).left (by decide)
    fun i => i.toUInt64.toNat_lt

/-! ## The message -/

/-- **The fields of a table of the message are the message** with the name that stands in the memory,
if the memory does not end before the name. -/
theorem Tabled.fields?_eq (h : Tabled t m) (hlt : (image m).length < 2 ^ 32) :
    fields? t =
      if nameEnd m ≤ t.memory.length then some { m with sourceName := nameIn t.memory m }
      else none := by
  have hids : (m.columns.ids.map fun i => i.toUInt64.toNat).map LittleEndian.int64 =
      m.columns.ids := by
    rw [List.map_map]
    exact List.map_id'' LittleEndian.int64_toNat _
  have htimestamps : (m.columns.timestamps.map fun t => t.toUInt32.toNat).map LittleEndian.int32 =
      m.columns.timestamps := by
    rw [List.map_map]
    exact List.map_id'' LittleEndian.int32_toNat _
  unfold fields?
  rw [h.name_eq hlt, h.id_eq, h.pulseTime_eq, h.timestamps_eq hlt, h.ids_eq hlt]
  split
  · simp only [Option.bind_eq_bind, Option.bind_some, Option.getD_some, Option.pure_def,
      Nat.toUInt64_eq, UInt64.ofNat_toNat, hids, htimestamps]
  · rfl

/-- A buffer is decoded by way of its table, whose version must be right. -/
theorem decode_of_table {bs behind : Bytes} (hlong : 8 ≤ bs.length) (htag : (bs.drop 4).take 4 = tag)
    (hroot : Table.root? bs behind = some t)
    (hversion : t.number? Slot.version.index 2 0 = some version) :
    decodeBefore behind bs = (inside (fields? t)).bind fun m =>
      if m.columns.ids.length ≠ m.columns.timestamps.length then
        .error (.report .encoding ("vector length mismatch: " ++ Decimal.ofNat m.columns.ids.length
          ++ " detector ids, " ++ Decimal.ofNat m.columns.timestamps.length ++ " timestamps"))
      else .ok m := by
  unfold decodeBefore
  rw [if_neg (Nat.not_lt.mpr hlong)]
  simp only [htag, hroot, hversion, inside, bind, Except.bind, ne_eq, not_true_eq_false, if_false]

/-- **A message is decoded from its table**, with the name that stands in the memory of the buffer; if
the memory ends before the name, that is a complaint. -/
theorem Tabled.decode_eq (h : Tabled t m)
    (hcolumns : m.columns.ids.length = m.columns.timestamps.length)
    (hlt : (image m).length < 2 ^ 32) :
    decodeBefore t.behind t.buffer =
      if nameEnd m ≤ t.memory.length then .ok { m with sourceName := nameIn t.memory m }
      else .error corrupt := by
  have hend := tablePlace_le_nameStart m
  have hplaced := tablePlace_lt m
  have h8 : 8 ≤ tablePlace m := by
    unfold tablePlace
    omega
  obtain ⟨hm, hm', -⟩ := image_holds m
  have hplace := h.holds hm (by rw [LittleEndian.length_put]; omega)
  have htag := h.holds hm' (by simp only [tag, List.length_cons, List.length_nil]; omega)
  have hroot : Table.root? t.buffer t.behind = some t := by
    unfold Table.root?
    rw [hplace.word?_eq (by omega), ← h.place_eq]
    rfl
  rw [decode_of_table htag.le_length htag.take_drop hroot h.version_eq, h.fields?_eq hlt]
  split
  · simp only [inside, Except.bind, hcolumns, ne_eq, not_true_eq_false, if_false]
  · rfl

/-- In the octets of the message stands the name of the message. -/
theorem nameIn_image (m : Message) (behind : Bytes) :
    nameIn (image m ++ behind) m = m.sourceName := by
  obtain ⟨-, -, -, -, -, -, hm⟩ := image_holds m
  have hname : Holds (image m) (nameStart m) m.sourceName := by
    have hright := hm.left.left.right
    rwa [LittleEndian.length_put] at hright
  unfold nameIn
  rw [List.drop_append_of_le_length (by have := hname.le_length; omega),
    List.take_append_of_le_length (by have := hname.le_length; rw [List.length_drop]; omega)]
  exact hname.take_drop

/-- **An image is decoded to its message**, whatever lies behind it. -/
theorem decodeBefore_image (hcolumns : m.columns.ids.length = m.columns.timestamps.length)
    (hlt : (image m).length < 2 ^ 32) (behind : Bytes) :
    decodeBefore behind (image m) = .ok m := by
  have htabled : Tabled { table m with behind := behind } m :=
    ⟨rfl, List.prefix_rfl, (tabled m).long⟩
  have hend : nameEnd m ≤ (image m ++ behind).length := by
    rw [List.length_append]
    exact Nat.le_add_right_of_le (nameEnd_le_length m)
  have hdecode := htabled.decode_eq hcolumns hlt
  simp only [table, Table.memory, if_pos hend, nameIn_image] at hdecode
  exact hdecode

/-- **Decoding an encoded message gives the message**, in memory of any size that is used again, and
whatever lies behind the message when it is decoded. -/
theorem decode_encode {capacity : Nat} {buf : Bytes} (hcapacity : capacity ≤ usedMemory)
    (h : encodeIn capacity m = .ok buf) (behind : Bytes) : decodeBefore behind buf = .ok m := by
  obtain ⟨rfl, hcolumns, -, hlimit⟩ :=
    encodeIn_eq_ok h (Nat.lt_of_le_of_lt hcapacity (by decide))
  exact decodeBefore_image hcolumns (by omega) behind

/-- A message with a number that is left out, a name of two octets and two events, in memory of a
megabyte. -/
theorem decode_encode_two :
    let m : Message := ⟨"ab", 0, 7, ⟨[1, -2], [3, -4]⟩⟩
    0x100000 ≤ usedMemory ∧
      ∃ buf, encodeIn 0x100000 m = .ok buf ∧ decodeBefore [] buf = .ok m := by
  intro m
  have hencode : encodeIn 0x100000 m = .ok (image m) :=
    encodeIn_image rfl (by decide)
  exact ⟨by decide, image m, hencode, decode_encode (by decide) hencode []⟩

end DetectorStream.Ev42
