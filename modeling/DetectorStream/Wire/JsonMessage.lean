import DetectorStream.Json.Reader
import DetectorStream.Json.Writer
import DetectorStream.Wire.Message

/-!
# Messages as JSON

A message is one object with its format, version, event count and the fields of the message.

* `JsonMessage.encode`: the document of a message.
* `JsonMessage.decode`: the message of a document.
-/

namespace DetectorStream.JsonMessage

/-- The tag of the format. -/
def tag : Text := "json"

/-- The members of a document, in order. -/
def members (m : Message) : List (Text × Text) := [
  ("format", Json.quote tag),
  ("version", "1"),
  ("count", Decimal.ofNat m.size),
  ("source_name", Json.quote m.sourceName),
  ("message_id", Decimal.ofNat m.id.toNat),
  ("pulse_time", Decimal.ofNat m.pulseTime.toNat),
  ("detector_id", Json.numbers (m.columns.ids.map Int64.toInt)),
  ("time_of_flight", Json.numbers (m.columns.timestamps.map Int32.toInt))]

/-- The document of a message. -/
def document (m : Message) : Text := Json.record (members m)

/-- Encode a message. -/
def encode (m : Message) : Except Fault Bytes :=
  match m.refusal? with
  | some f => .error f
  | none => .ok (document m)

/-! ## Reading -/

/-- What a document says. -/
structure Envelope where
  format : Text := []
  version : Nat := 0
  count : Int := 0
  message : Message := {}

/-- The fields of a document, in the order of their names. -/
def fields : List (Json.Field Envelope) := [
  ⟨"count", fun e t => (Json.integer 64 true t).map fun (n, t) => ({ e with count := n.getD e.count }, t)⟩,
  ⟨"detector_id", fun e t =>
    (Json.array (fun t => (Json.integer 64 true t).map fun (n, t) => (n.map Int64.ofInt, t)) 0
      e.message.columns.ids t).map fun (ids, t) =>
        ({ e with message.columns.ids := ids }, t)⟩,
  ⟨"format", fun e t => (Json.string t).map fun (s, t) => ({ e with format := s.getD e.format }, t)⟩,
  ⟨"message_id", fun e t => (Json.natural 64 t).map fun (n, t) =>
    ({ e with message.id := (n.map Nat.toUInt64).getD e.message.id }, t)⟩,
  ⟨"pulse_time", fun e t => (Json.natural 64 t).map fun (n, t) =>
    ({ e with message.pulseTime := (n.map Nat.toUInt64).getD e.message.pulseTime }, t)⟩,
  ⟨"source_name", fun e t => (Json.string t).map fun (s, t) =>
    ({ e with message.sourceName := s.getD e.message.sourceName }, t)⟩,
  ⟨"time_of_flight", fun e t =>
    (Json.array (fun t => (Json.integer 32 true t).map fun (n, t) => (n.map Int32.ofInt, t)) 0
      e.message.columns.timestamps t).map fun (ts, t) =>
        ({ e with message.columns.timestamps := ts }, t)⟩,
  ⟨"version", fun e t => (Json.natural 16 t).map fun (n, t) => ({ e with version := n.getD e.version }, t)⟩]

/-- The envelope of a document. -/
def envelope? (bs : Bytes) : Option Envelope :=
  match Json.object fields false {} bs with
  | some (e, rest) => if Json.atEnd rest then some e else none
  | none => none

/-- Decode a document. -/
def decode (bs : Bytes) : Except Fault Message :=
  match envelope? bs with
  | none => .error (Fault.wrap .encoding "failed to unmarshal JSON message" .withheld)
  | some e =>
    let ids := e.message.columns.ids.length
    let ts := e.message.columns.timestamps.length
    if e.format ≠ tag then
      .error (.report .encoding ("unexpected format " ++ Text.quote e.format))
    else if e.count ≠ ids || e.count ≠ ts then
      .error (.report .encoding ("count " ++ Decimal.ofInt e.count ++ " does not match vectors ("
        ++ Decimal.ofNat ids ++ ", " ++ Decimal.ofNat ts ++ ")"))
    else .ok e.message

end DetectorStream.JsonMessage
