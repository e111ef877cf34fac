import DetectorStream.Proofs.Wire.JsonRoundTrip
import DetectorStream.Proofs.Wire.RoundTrip
import DetectorStream.Wire.Format

/-!
# What a message is received as

In either format an encoded message is decoded again: as the message itself, or, where the format
holds names as characters, as the message with the stray octets of its name replaced. Its number and
its columns are never changed.

* `Ev42.decode_image`: an image within the limit is decoded.
* `Format.received`: what a message is received as.
* **`Format.decode_eq_received`**: what was encoded is decoded as what is received.
-/

namespace DetectorStream

namespace Ev42

variable {m : Message}

theorem decode_image (hcolumns : m.columns.ids.length = m.columns.timestamps.length)
    (hlt : (image m).length < 2 ^ 32) : decode (image m) = .ok m :=
  decodeBefore_image hcolumns hlt []

end Ev42

namespace Format

variable {m : Message} {buf : Bytes}

/-- **What a message is received as.** -/
def received : Format → Message → Message
  | ev42, m => m
  | json, m => JsonMessage.told m

@[simp] theorem received_columns (f : Format) (m : Message) :
    (f.received m).columns = m.columns := by
  cases f <;> rfl

@[simp] theorem received_size (f : Format) (m : Message) : (f.received m).size = m.size := by
  unfold Message.size
  rw [received_columns]

@[simp] theorem received_id (f : Format) (m : Message) : (f.received m).id = m.id := by
  cases f <;> rfl

/-- **What was encoded is decoded as what is received.** -/
theorem decode_eq_received {f : Format} (h : f.encode m = .ok buf) :
    f.decode buf = .ok (f.received m) := by
  cases f with
  | ev42 =>
    obtain ⟨rfl, hcolumns, hlimit⟩ := Ev42.encode_eq_ok h
    exact Ev42.decode_image hcolumns (Nat.lt_trans hlimit (by decide))
  | json =>
    obtain ⟨⟨hcolumns, hsize⟩, rfl⟩ := JsonMessage.encode_eq_ok.mp h
    exact JsonMessage.decode_document (Nat.lt_of_le_of_lt hsize (by decide)) hcolumns

end Format

end DetectorStream
