import DetectorStream.Delivery.Label
import DetectorStream.Delivery.Transmitter

/-!
# Delivery to NATS

A message is published on a subject and then flushed, so that a send that succeeds means that the
server has it. A message whose flush fails may have arrived all the same; it is offered again under
the same sequence number.

* `Nats.isTransient`: may the same message succeed when it is sent again?
* `Nats.Connection.refusal?`: why the client does not publish a message.
* `Nats.send`: publish and flush a message.
* `Nats.close`: drain and close the connection.
-/

namespace DetectorStream.Delivery.Nats

/-- Conditions that pass. -/
def passes : Signal → Bool
  | .natsTimeout | .natsNoServers | .natsReconnectBuffer | .natsStale => true
  | _ => false

/-- May the same message succeed when it is sent again? -/
def isTransient (f : Fault) : Bool := f.anySignal passes

/-! ## The connection -/

/-- How a connection stands. -/
inductive Link
  | up
  /-- The server is gone and the client is trying to find it again, without room to buffer. -/
  | reconnecting
  | closed
deriving DecidableEq, Repr

/-- A connection as the client sees it. -/
structure Connection where
  /-- Does the server take headers? -/
  headers : Bool := true
  maxPayload : Nat := 1048576
  link : Link := .up
  /-- Does the server leave flushes unanswered? -/
  mute : Bool := false
deriving DecidableEq, Repr

/-- A header value as it travels: on one line and without blanks at its ends. -/
def headerValue (t : Text) : Text :=
  Text.trim (fun b => b == 0x20 || b == 0x09)
    (t.map fun b => if b == 0x0A || b == 0x0D then 0x20 else b)

/-- The octets of a header block. -/
def blockSize (headers : List (Text × Text)) : Nat :=
  (headers.map fun (k, v) => k.length + v.length + 4).foldl (· + ·) ("NATS/1.0\r\n".length + 2)

namespace Connection

/-- Why the client does not publish a message, if so. -/
def refusal? (c : Connection) (subject : Text) (headers : List (Text × Text)) (data : Bytes) :
    Option Fault :=
  if subject.isEmpty then some (.signal .natsBadSubject)
  else if !c.headers then some .withheld
  else if c.link == .closed then some (.signal .natsClosed)
  else if c.maxPayload < blockSize headers + data.length then some (.signal .natsMaxPayload)
  else if c.link == .reconnecting then some (.signal .natsReconnectBuffer)
  else none

/-- Why a flush fails, if it does. -/
def flush? (c : Connection) : Option Fault := if c.mute then some (.signal .natsTimeout) else none

end Connection

/-! ## The transmitter -/

/-- What the server gets. -/
structure Publication where
  subject : Text
  headers : List (Text × Text)
  data : Bytes
deriving DecidableEq, Repr

/-- The state of a transmitter. -/
structure State where
  connection : Connection
  label : Label
  /-- How many messages were published and flushed. -/
  seq : Nat := 0
  /-- What the server got, in order. -/
  published : List Publication := []
deriving DecidableEq, Repr

/-- The headers of the next message, by name. -/
def State.headers (s : State) : List (Text × Text) :=
  ((s.label.headers s.seq).map fun (k, v) => (k, headerValue v)).mergeSort fun a b => Text.le a.1 b.1

/-- A failure to deliver a message. -/
def failed (message subject : Text) (f : Fault) : Fault :=
  (Fault.transmission (isTransient f) message (some f)).withDetail "subject" (.text subject)

/-- Publish and flush a message, given how both turn out. -/
def deliver (publish flush : Option Fault) (subject : Text) (data : Bytes) (s : State) :
    State × Option Fault :=
  match publish with
  | some f => (s, some (failed "failed to publish message" subject f))
  | none =>
    let sent := { s with published := s.published ++ [⟨subject, s.headers, data⟩] }
    match flush with
    | some f => (sent, some (failed "failed to flush message" subject f))
    | none => ({ sent with seq := s.seq + 1 }, none)

/-- Send a message on a subject. -/
def send : Transmitter State := fun ctx subject data s =>
  match cancelled? ctx with
  | some f => ⟨s, ctx, some f, []⟩
  | none =>
    let (s, fault) :=
      deliver (s.connection.refusal? subject s.headers data) s.connection.flush? subject data s
    ⟨s, ctx, fault, []⟩

/-- Drain and close the connection. One that is reconnecting cannot be drained, and is closed all
the same. -/
def close (s : State) : State × Option Fault :=
  let shut := { s with connection := { s.connection with link := .closed } }
  match s.connection.link with
  | .closed => (s, none)
  | .up => (shut, none)
  | .reconnecting =>
    (shut, some (Fault.wrap .transmission "failed to drain NATS connection" .withheld))

end DetectorStream.Delivery.Nats
