import DetectorStream.Delivery.Kafka.Producer
import DetectorStream.Delivery.Kafka.Transmitter
import DetectorStream.Delivery.Nats
import DetectorStream.Delivery.Retry
import DetectorStream.Source.Locator

/-!
# Connecting a transport

The settings name the kind of transport. Brokers are reached over a network, which answers with a
signal when nobody listens; a file needs no connection.

* `Delivery.Endpoint`: what the settings lead to.
* `Delivery.connect`: the endpoint of the settings, or why there is none.
* `Delivery.policyOf`: how often messages are offered.
-/

namespace DetectorStream.Delivery

/-- What a run delivers to. -/
inductive Endpoint
  | file
  | kafka (producer : Kafka.Producer)
  | nats (servers : List Text)
deriving DecidableEq, Repr

/-- How the settings repeat failed sends. The sum wraps around. -/
def policyOf (s : TransportSettings) : Policy :=
  .make (s.retries + 1) s.retryBackoff s.maxRetryBackoff

/-- The servers of a comma-separated list, each with a scheme; blank ones do not count. -/
def serversOf (brokers : List Text) : List Text :=
  let named := (Text.split 0x2C (Text.join "," brokers)).map
    (Text.trim fun b => b == 0x20 || Text.within 0x09 0x0D b)
  (named.filter fun t => !t.isEmpty).map fun t =>
    if Text.includes "://" t then t else Text.ofString "nats://" ++ t

/-- The first server that is no locator. -/
def badServer? (servers : List Text) : Option Fault :=
  servers.findSome? fun t =>
    match Locator.parse t with
    | .error e => some (.told e)
    | .ok _ => none

/-- Connect to Kafka brokers; `reach` says what the network answers. -/
def connectKafka (reach : Option Fault) (s : TransportSettings) : Except Fault Endpoint :=
  match Kafka.Producer.ofSettings s with
  | .error f => .error f
  | .ok p =>
    match if s.brokers.isEmpty then some .withheld else reach with
    | some f =>
      .error ((Fault.transmission (Kafka.isTransient f) "failed to create kafka producer"
        (some f)).withDetail "brokers" (.texts s.brokers))
    | none => .ok (.kafka p)

/-- Connect to NATS servers; `reach` says what the network answers. -/
def connectNats (reach : Option Fault) (s : TransportSettings) : Except Fault Endpoint :=
  let servers := serversOf s.brokers
  match (badServer? servers).or reach with
  | some f =>
    .error ((Fault.transmission (Nats.isTransient f) "failed to connect to NATS"
      (some f)).withDetail "servers" (.texts s.brokers))
  | none => .ok (.nats servers)

/-- What a network answers on which nobody listens. -/
structure Reach where
  kafka : Option Fault := some (.signal .outOfBrokers)
  nats : Option Fault := some (.signal .natsNoServers)

/-- The endpoint of the settings. -/
def connect (reach : Reach) (s : TransportSettings) : Except Fault Endpoint :=
  if s.kind == "kafka" then connectKafka reach.kafka s
  else if s.kind == "nats" then connectNats reach.nats s
  else if s.kind == "file" then .ok .file
  else .error (.report .configuration ("unknown transport kind " ++ Text.quote s.kind))

end DetectorStream.Delivery
