import DetectorStream.Delivery.Label
import DetectorStream.Delivery.Transmitter

/-!
# Delivery to Kafka

Every message becomes a record under one key, so that all records of a run share a partition and
stay in order. The sequence header counts the messages that were accepted before: a record that is
offered again carries the same number.

A broker's error code decides whether a failure passes, when there is one. Without a code it is the
condition that the client reports, and failing that, any failure of a network operation counts as
passing.

* `Kafka.isTransient`: may the same message succeed when it is sent again?
* `Kafka.State.record`: the record of a message.
* `Kafka.State.requests`: what the producer was asked to do, records and closings.
* `Kafka.send`: offer a message to the broker.
* `Kafka.close`: close the producer, once.
-/

namespace DetectorStream.Delivery.Kafka

/-! ## Failures that pass -/

/-- The broker's codes for conditions that pass: an unknown topic or partition, an election, a stale
leader, a timeout, a missing broker or replica, a lost connection, too few replicas (before or after
writing), a stale controller, a failing disk. -/
def transientCodes : List Int := [3, 5, 6, 7, 8, 9, 13, 19, 20, 41, 56]

/-- Conditions that pass. -/
def passes : Signal → Bool
  | .outOfBrokers | .notConnected | .endOfInput | .deadline => true
  | _ => false

/-- Conditions that last. -/
def lasts : Signal → Bool
  | .closedClient | .shuttingDown | .cancelled => true
  | _ => false

/-- May the same message succeed when it is sent again? -/
def isTransient (f : Fault) : Bool :=
  match f.kafkaCode? with
  | some code => transientCodes.elem code
  | none =>
    if f.anySignal passes then true
    else if f.anySignal lasts then false
    else f.anySignal Signal.isNetwork

/-! ## Records -/

/-- What is offered to the broker. -/
structure Record where
  topic : Text
  key : Text
  value : Bytes
  headers : List (Text × Text)
deriving DecidableEq, Repr

/-- What a producer is asked to do. -/
inductive Request
  | record (r : Record)
  | close
deriving DecidableEq, Repr

/-- The record that a producer is asked to send, if it is. -/
def Request.record? : Request → Option Record
  | record r => some r
  | close => none

/-- The state of a transmitter. -/
structure State where
  key : Text
  label : Label
  /-- How many messages were accepted. -/
  seq : Nat := 0
  closed : Bool := false
  /-- What the producer was asked to do, in order. -/
  requests : List Request := []
deriving DecidableEq, Repr

namespace State

/-- Every record that was offered, in order. -/
def offered (s : State) : List Record := s.requests.filterMap Request.record?

/-- The record of a message. -/
def record (s : State) (topic : Text) (message : Bytes) : Record :=
  ⟨topic, s.key, message, s.label.headers s.seq⟩

/-- Ask the producer for one thing more. -/
def ask (s : State) (r : Request) : State := { s with requests := s.requests ++ [r] }

end State

/-- The fault of a send through a closed transmitter. -/
def closedFault : Fault :=
  .transmission false "kafka transmitter is closed" (some (.signal .closedClient))

/-- The fault of a record that the broker did not take. -/
def produceFault (topic : Text) (seq : Nat) (f : Fault) : Fault :=
  ((Fault.transmission (isTransient f) "failed to produce message" (some f)).withDetail
    "topic" (.text topic)).withDetail "seq" (.number seq)

/-- Offer a message to a broker that answers the `n`-th record offered, counted from zero, by
`produce n`. -/
def send (produce : Nat → Option Fault) : Transmitter State := fun ctx topic message s =>
  if s.closed then ⟨s, ctx, some closedFault, []⟩
  else
    match cancelled? ctx with
    | some f => ⟨s, ctx, some f, []⟩
    | none =>
      let tried := s.ask (.record (s.record topic message))
      match produce s.offered.length with
      | some f => ⟨tried, ctx, some (produceFault topic s.seq f), []⟩
      | none => ⟨{ tried with seq := s.seq + 1 }, ctx, none, []⟩

/-- Close the transmitter; `answer` is what the producer says. Only the first time it is asked. -/
def close (answer : Option Fault) (s : State) : State × Option Fault :=
  if s.closed then (s, none)
  else ({ s.ask .close with closed := true },
    answer.map (Fault.wrap .transmission "failed to close kafka producer"))

end DetectorStream.Delivery.Kafka
