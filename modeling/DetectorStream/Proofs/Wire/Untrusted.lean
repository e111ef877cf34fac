import DetectorStream.Proofs.FlatBuffer.Bounds
import DetectorStream.Proofs.Wire.Layout

/-!
# Buffers from anywhere

Any octets can be decoded: there is a message, or a complaint about the encoding. Whatever places and
lengths the octets claim, everything in the message was read from the buffer.

* `decode_cases`: how decoding ends.
* `Tells`: a field tells a 64-bit number.
* **`ReadFrom`**, `readFrom_of_fields?`: where the parts of a message stand.
* **`decode_stays_inside`**: no vector that leaves the buffer is decoded, and a message holds nothing
  but what stands in the buffer.
-/

namespace DetectorStream.Ev42

open FlatBuffer
open LittleEndian (put int32 int64)

variable {buf : Bytes} {t : Table} {m : Message}

/-! ## How decoding ends -/

theorem inside_cases {α : Type} (x : Option α) :
    inside x = .error corrupt ∨ ∃ a, x = some a ∧ inside x = .ok a := by
  cases x with
  | none => exact .inl rfl
  | some a => exact .inr ⟨a, rfl, rfl⟩

/-- **Decoding ends with a complaint about the encoding, or with the fields of a table**, the columns
of which are equally long. -/
theorem decode_cases (behind buf : Bytes) :
    (∃ f, decodeBefore behind buf = .error f ∧ f.kind = .encoding) ∨
      ∃ t m, decodeBefore behind buf = .ok m ∧ Table.root? buf behind = some t ∧
        fields? t = some m ∧ m.columns.ids.length = m.columns.timestamps.length := by
  unfold decodeBefore
  split
  · exact .inl ⟨_, rfl, rfl⟩
  simp only
  split
  · exact .inl ⟨_, rfl, rfl⟩
  rcases inside_cases (Table.root? buf behind) with hroot | ⟨t, hroot, htable⟩
  · rw [hroot]
    exact .inl ⟨_, rfl, rfl⟩
  rw [htable]
  simp only [bind, Except.bind]
  rcases inside_cases (t.number? Slot.version.index 2 0) with hversion | ⟨v, -, hversion⟩
  · rw [hversion]
    exact .inl ⟨_, rfl, rfl⟩
  rw [hversion]
  simp only
  split
  · exact .inl ⟨_, rfl, rfl⟩
  rcases inside_cases (fields? t) with hfields | ⟨m, hfields, hmessage⟩
  · rw [hfields]
    exact .inl ⟨_, rfl, rfl⟩
  rw [hmessage]
  simp only
  split
  · exact .inl ⟨_, rfl, rfl⟩
  · rename_i hcolumns
    exact .inr ⟨t, m, rfl, hroot, hfields, not_ne_iff.mp hcolumns⟩

/-! ## Where the parts of a message stand -/

/-- **A field tells a 64-bit number**: zero if it is absent, and otherwise one that stands in the
buffer. -/
def Tells (t : Table) (slot : Nat) (x : UInt64) : Prop :=
  (t.field? slot = some none ∧ x = 0) ∨
    ∃ p, t.field? slot = some (some p) ∧ Holds t.buffer p (put 8 x.toNat)

theorem tells_of_number? {slot n : Nat} (h : t.number? slot 8 0 = some n) :
    Tells t slot n.toUInt64 := by
  rcases Table.number?_eq_some (by decide) h with ⟨hfield, rfl⟩ | ⟨p, hfield, hfit, hholds⟩
  · exact .inl ⟨hfield, rfl⟩
  · refine .inr ⟨p, hfield, ?_⟩
    rwa [Nat.toUInt64_eq, UInt64.toNat_ofNat_of_lt' hfit]

/-- **Everything in the message was read from the buffer of the table.** -/
structure ReadFrom (t : Table) (m : Message) : Prop where
  sourceName : Refers t Slot.sourceName.index m.sourceName.length m.sourceName
  id : Tells t Slot.messageId.index m.id
  pulseTime : Tells t Slot.pulseTime.index m.pulseTime
  timestamps : Elements t Slot.timeOfFlight.index 4
    (m.columns.timestamps.map fun x => x.toUInt32.toNat)
  ids : Elements t Slot.detectorId.index 8 (m.columns.ids.map fun i => i.toUInt64.toNat)

theorem readFrom_of_fields? (hbuf : t.buffer.length < 2 ^ 32) (hbehind : t.behind = [])
    (h : fields? t = some m) : ReadFrom t m := by
  simp only [fields?, bind, pure, Option.bind_eq_some_iff, Option.some.injEq] at h
  obtain ⟨name, hname, id, hid, pulse, hpulse, ts, hts, ids, hids, rfl⟩ := h
  obtain ⟨hfit4, hts⟩ := Table.words?_eq_some hbuf (by decide) hts
  obtain ⟨hfit8, hids⟩ := Table.words?_eq_some hbuf (by decide) hids
  -- a number that was read keeps its octets, with or without a sign
  have hsigned4 : (ts.getD []).map (fun x => (int32 x).toUInt32.toNat) = ts.getD [] :=
    (List.map_congr_left fun x hx => LittleEndian.toNat_int32 (hfit4 x hx)).trans (List.map_id _)
  have hsigned8 : (ids.getD []).map (fun x => (int64 x).toUInt64.toNat) = ids.getD [] :=
    (List.map_congr_left fun x hx => LittleEndian.toNat_int64 (hfit8 x hx)).trans (List.map_id _)
  refine ⟨Table.text?_eq_some hbuf hbehind hname, tells_of_number? hid, tells_of_number? hpulse, ?_, ?_⟩
  · rw [← hsigned4] at hts
    rwa [List.map_map]
  · rw [← hsigned8] at hids
    rwa [List.map_map]

/-- The fields that are vectors, and the widths of their elements. -/
def vectors : List (Slot × Nat) := [(.sourceName, 1), (.timeOfFlight, 4), (.detectorId, 8)]

/-- **A vector of a table that was read ends inside the buffer.** -/
theorem ReadFrom.within {slot : Slot} {width n start : Nat} (h : ReadFrom t m)
    (hslot : (slot, width) ∈ vectors)
    (hvector : t.vector? slot.index = some (some (n, start))) :
    start + n * width ≤ t.buffer.length := by
  simp only [vectors, List.mem_cons, Prod.mk.injEq, List.not_mem_nil, or_false] at hslot
  rcases hslot with ⟨rfl, rfl⟩ | ⟨rfl, rfl⟩ | ⟨rfl, rfl⟩
  · obtain ⟨rfl, hend⟩ := h.sourceName.within hvector
    rwa [Nat.mul_one]
  · obtain ⟨rfl, hend⟩ := h.timestamps.refers.within hvector
    rwa [length_flatMap_put] at hend
  · obtain ⟨rfl, hend⟩ := h.ids.refers.within hvector
    rwa [length_flatMap_put] at hend

theorem buffer_of_root? {behind : Bytes} (h : Table.root? buf behind = some t) :
    t.buffer = buf ∧ t.behind = behind := by
  obtain ⟨p, -, rfl⟩ := Option.map_eq_some_iff.mp h
  exact ⟨rfl, rfl⟩

/-! ## Any buffer -/

/-- **Any octets are decoded to what stands in them, or not at all.** Either there is a complaint
about the encoding, and no message; or there is a message with as many detector ids as timestamps, of
which every part was read from the buffer: it has room for all ids and for all timestamps, and the
source name is a piece of it. Places and indices may wrap, but a buffer with a vector that ends
outside is never decoded. -/
theorem decode_stays_inside (hbuf : buf.length < 2 ^ 32) :
    ((∃ f, decode buf = .error f ∧ f.kind = .encoding) ∨
      ∃ t m, decode buf = .ok m ∧ Table.root? buf = some t ∧ t.buffer = buf ∧ ReadFrom t m ∧
        m.columns.ids.length = m.columns.timestamps.length ∧
        8 * m.columns.ids.length ≤ buf.length ∧ 4 * m.columns.timestamps.length ≤ buf.length ∧
        m.sourceName <:+: buf) ∧
    ∀ t slot width n start, Table.root? buf = some t → (slot, width) ∈ vectors →
      t.vector? slot.index = some (some (n, start)) → buf.length < start + n * width →
      ∃ f, decode buf = .error f ∧ f.kind = .encoding := by
  rcases decode_cases [] buf with hrefused | ⟨t, m, hdecode, hroot, hfields, hcolumns⟩
  · exact ⟨.inl hrefused, fun _ _ _ _ _ _ _ _ _ => hrefused⟩
  obtain ⟨rfl, hbehind⟩ := buffer_of_root? hroot
  have hread := readFrom_of_fields? hbuf hbehind hfields
  constructor
  · have hids := hread.ids.length_le
    have htimestamps := hread.timestamps.length_le
    rw [List.length_map] at hids htimestamps
    exact .inr ⟨t, m, hdecode, hroot, rfl, hread, hcolumns, hids, htimestamps,
      hread.sourceName.isInfix⟩
  · intro t' slot width n start hroot' hslot hvector houtside
    rw [hroot] at hroot'
    cases hroot'
    exact absurd (hread.within hslot hvector) (Nat.not_le.mpr houtside)

/-- A message of one event whose ids are said to be so many that their octets wrap to eight, which are
there: it is not decoded. -/
theorem decode_stays_inside_wrapped :
    let buf := (image ⟨"p", 0, 0, ⟨[5], [7]⟩⟩).set 47 0x20
    buf.length < 2 ^ 32 ∧ wrap (0x20000001 * 8) = 8 ∧
      (∃ t start, Table.root? buf = some t ∧
        t.vector? Slot.detectorId.index = some (some (0x20000001, start)) ∧
        start + 8 ≤ buf.length) ∧
      ∃ f, decode buf = .error f ∧ f.kind = .encoding := by
  intro buf
  have hvector : (⟨buf, 24, []⟩ : Table).vector? Slot.detectorId.index =
      some (some (0x20000001, 48)) := by decide
  have hbuf : buf.length < 2 ^ 32 := by decide
  refine ⟨hbuf, rfl, ⟨⟨buf, 24, []⟩, 48, rfl, hvector, by decide⟩, ?_⟩
  exact (decode_stays_inside hbuf).2 ⟨buf, 24, []⟩ .detectorId 8 0x20000001 48 rfl (by decide)
    hvector (by decide)

end DetectorStream.Ev42
