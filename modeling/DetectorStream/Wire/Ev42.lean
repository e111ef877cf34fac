import DetectorStream.FlatBuffer.Builder
import DetectorStream.FlatBuffer.Table
import DetectorStream.Wire.Message

/-!
# The ev42 format

An ev42 message is a flat buffer: the place of its table, the tag `ev42`, the list of field offsets,
the table, the detector ids, the timestamps and the source name. Numbers that are zero are left out
of the table. The memory in which messages are built is used again for later ones.

* `Ev42.build`: the buffer of a message.
* `Ev42.encode`: its octets, for a message that may be encoded; `Ev42.encodeIn` in memory of any size.
* `Ev42.decode`: the message of a buffer; every read outside it is a complaint. Of a buffer that
  begins longer memory `Ev42.decodeBefore` takes the source name from the memory.
-/

namespace DetectorStream.Ev42

open FlatBuffer (Builder Table)

/-- The tag of the format. -/
def tag : Bytes := [0x65, 0x76, 0x34, 0x32]

/-- The version of the layout. -/
def version : Nat := 1

/-- The numbers of the fields. -/
inductive Slot
  | sourceName
  | messageId
  | pulseTime
  | timeOfFlight
  | detectorId
  | version
deriving DecidableEq, Repr

/-- The number of a field. -/
def Slot.index : Slot → Nat
  | sourceName => 0
  | messageId => 1
  | pulseTime => 2
  | timeOfFlight => 3
  | detectorId => 4
  | version => 5

/-! ## Building -/

/-- Build the buffer of a message: the source name, the timestamps, the detector ids, and the table
that refers to them. -/
def build (m : Message) : Builder :=
  let names := ({} : Builder).text m.sourceName
  let timestamps := names.words 4 (m.columns.timestamps.map fun t => t.toUInt32.toNat)
  let ids := timestamps.words 8 (m.columns.ids.map fun i => i.toUInt64.toNat)
  let table := (ids.table 6).number Slot.pulseTime.index 8 m.pulseTime.toNat 0
  let table := table.number Slot.messageId.index 8 m.id.toNat 0
  let table := table.reference Slot.detectorId.index ids.size
  let table := table.reference Slot.timeOfFlight.index timestamps.size
  let table := table.reference Slot.sourceName.index names.size
  let table := table.number Slot.version.index 2 version 0
  let closed := table.close
  closed.1.finish closed.2 tag

/-- Encode a message in memory that has `capacity` octets at first. -/
def encodeIn (capacity : Nat) (m : Message) : Except Fault Bytes :=
  match m.refusal? with
  | some f => .error f
  | none =>
    let b := build m
    if b.room < FlatBuffer.reach capacity then .ok b.octets
    else .error (.report .encoding ("flatbuffer construction failed: " ++ Diagnostic.veil))

/-- The size of new memory. -/
def newMemory : Nat := 4096

/-- The size beyond which memory is not used again. -/
def usedMemory : Nat := 0x1000000

/-- Encode a message in new memory. -/
def encode (m : Message) : Except Fault Bytes := encodeIn newMemory m

/-! ## Reading -/

/-- A buffer with a reference that leads nowhere. -/
def corrupt : Fault := .report .encoding ("corrupt ev42 buffer: " ++ Diagnostic.veil)

/-- A read that must stay inside the buffer. -/
def inside {α : Type} : Option α → Except Fault α
  | some x => .ok x
  | none => .error corrupt

/-- The fields of a table of the right version. -/
def fields? (t : Table) : Option Message := do
  let name ← t.text? Slot.sourceName.index
  let id ← t.number? Slot.messageId.index 8 0
  let pulse ← t.number? Slot.pulseTime.index 8 0
  let ts ← t.words? Slot.timeOfFlight.index 4
  let ids ← t.words? Slot.detectorId.index 8
  pure ⟨name.getD [], id.toUInt64, pulse.toUInt64,
    ⟨(ids.getD []).map LittleEndian.int64, (ts.getD []).map LittleEndian.int32⟩⟩

/-- Decode a buffer, which is followed by the octets `behind` in its memory. -/
def decodeBefore (behind buf : Bytes) : Except Fault Message :=
  if buf.length < 8 then
    .error (.report .encoding ("buffer of " ++ Decimal.ofNat buf.length ++ " bytes is too short"))
  else
    let id := (buf.drop 4).take 4
    if id ≠ tag then .error (.report .encoding ("unexpected file identifier " ++ Text.quote id))
    else do
      let t ← inside (Table.root? buf behind)
      let v ← inside (t.number? Slot.version.index 2 0)
      if v ≠ version then
        .error (.report .encoding ("unsupported ev42 version " ++ Decimal.ofNat v))
      else do
        let m ← inside (fields? t)
        if m.columns.ids.length ≠ m.columns.timestamps.length then
          .error (.report .encoding ("vector length mismatch: " ++ Decimal.ofNat m.columns.ids.length
            ++ " detector ids, " ++ Decimal.ofNat m.columns.timestamps.length ++ " timestamps"))
        else .ok m

/-- Decode a buffer that is all of its memory. -/
def decode (buf : Bytes) : Except Fault Message := decodeBefore [] buf

end DetectorStream.Ev42
