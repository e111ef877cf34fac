import DetectorStream.Settings.Basic

/-!
# The producer that settings describe

* `Kafka.Producer.ofSettings`: how a producer is set up, or the first setting that makes no sense.
-/

namespace DetectorStream.Delivery.Kafka

/-- How many copies a broker has to confirm. -/
inductive Acks
  | all
  | leader
  | none
deriving DecidableEq, Repr

namespace Acks

/-- The number that stands for it on the wire. -/
def code : Acks → Int
  | all => -1
  | leader => 1
  | none => 0

/-- The meaning of a setting; an empty one stands for all. -/
def ofText (t : Text) : Except Fault Acks :=
  if t == "all" || t == "-1" || t.isEmpty then .ok all
  else if t == "1" then .ok leader
  else if t == "0" then .ok none
  else .error (Settings.broken ("unknown acks value " ++ Text.quote t))

end Acks

/-- How record batches are compressed. -/
inductive Packing
  | none
  | gzip
  | snappy
  | lz4
  | zstd
deriving DecidableEq, Repr

namespace Packing

/-- The name of a compression. -/
def name : Packing → String
  | none => "none"
  | gzip => "gzip"
  | snappy => "snappy"
  | lz4 => "lz4"
  | zstd => "zstd"

/-- All compressions. -/
def all : List Packing := [none, gzip, snappy, lz4, zstd]

/-- The meaning of a setting; an empty one stands for none. -/
def ofText (t : Text) : Except Fault Packing :=
  if t.isEmpty then .ok none
  else
    match all.find? fun p => t == Text.ofString p.name with
    | some p => .ok p
    | Option.none => .error (Settings.broken ("unknown compression " ++ Text.quote t))

end Packing

/-- How a producer is set up. -/
structure Producer where
  clientId : Text
  acks : Acks
  packing : Packing
  idempotent : Bool
  /-- Repeats by the producer itself. They happen above it, except that a producer that guards
  against duplicates insists on one. -/
  retries : Nat
  maxMessageBytes : Int64
  /-- How long a broker may take for one message. -/
  timeout : Duration
  /-- How long connecting, reading and writing may take. -/
  netTimeout : Duration
deriving DecidableEq, Repr

namespace Producer

/-- The version of the broker's protocol. -/
def protocolVersion : String := "2.1.0"

/-- How many requests may be under way, so that messages stay in order. -/
def maxOpenRequests : Nat := 1

/-- The size of the largest message when the settings give none. -/
def defaultMessageBytes : Int64 := 1048576

/-- How a producer is set up. Sizes and times that are not positive stand for the defaults. -/
def ofSettings (s : TransportSettings) : Except Fault Producer :=
  match Acks.ofText s.acks with
  | .error f => .error f
  | .ok acks =>
    match Packing.ofText s.compression with
    | .error f => .error f
    | .ok packing =>
      if s.idempotent && acks != .all then
        .error (Settings.broken "idempotent producer requires acks=all")
      else
        .ok { clientId := s.clientId
              acks := acks
              packing := packing
              idempotent := s.idempotent
              retries := if s.idempotent then 1 else 0
              maxMessageBytes := if 0 < s.maxMessageBytes then s.maxMessageBytes else defaultMessageBytes
              timeout := if 0 < s.timeout then s.timeout else .ofSeconds 10
              netTimeout := if 0 < s.timeout then s.timeout else .ofSeconds 30 }

end Producer

end DetectorStream.Delivery.Kafka
