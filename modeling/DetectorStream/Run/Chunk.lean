import DetectorStream.Delivery.Transmitter
import DetectorStream.Flow.Controller
import DetectorStream.Metrics.Basic
import DetectorStream.Settings.Basic
import DetectorStream.Trace.Span
import DetectorStream.Wire.Format

/-!
# Sending one chunk

A chunk of a batch becomes one message: its columns, its number, and a pulse time that has the pass
in its upper and the first timestamp in its lower half, so that a chunk is always encoded alike.

* `Run.message`: the message of a chunk.
* `Run.Setup`: what a run is made of.
* `Run.Setup.send`: encode a chunk and hand it to the transmitter.
-/

namespace DetectorStream.Run

/-- How messages are encoded. -/
structure Serializer where
  name : Text
  encode : Message → Except Fault Bytes

/-- The serializer of a format. -/
def Serializer.ofFormat (f : Format) : Serializer := ⟨f.name, f.encode⟩

/-- The pass in the upper half and the first timestamp in the lower half. -/
def pulseTime (pass : Nat) (timestamps : List Int32) : UInt64 :=
  (pass.toUInt32.toUInt64 <<< 32) ||| ((timestamps.head?.getD 0).toUInt32).toUInt64

/-- The message of a chunk. The chunks of a batch lie within it. -/
def message (sourceName : Text) (b : Batch) (c : Chunk) : Message :=
  let columns := (b.slice (Int64.ofNat c.offset) (Int64.ofNat c.length)).getD .empty
  { sourceName := sourceName
    id := c.seq.toUInt64
    pulseTime := pulseTime c.pass columns.timestamps
    columns := columns }

/-- What a run is made of. -/
structure Setup (σ : Type) where
  settings : Settings
  serializer : Serializer
  transmitter : Delivery.Transmitter σ
  runId : Text
  /-- How long the delivery of each message takes. -/
  latency : Nat → Duration := fun _ => 0
  /-- How much time goes by before each message is asked for, in nanoseconds. -/
  pause : Nat → Int := fun _ => 0
  /-- How the waits before a chunk end. A context can be cancelled while a wait is on, so this need
  not follow from the context in which it began. -/
  waits : Flow.Controller → Context → Flow.Waits := Flow.Controller.waits

/-- A setup from its parts, all of which are needed. -/
def Setup.assemble {σ : Type} (settings : Option Settings) (serializer : Option Serializer)
    (transmitter : Option (Delivery.Transmitter σ)) (runId : Text) : Except Fault (Setup σ) :=
  match settings, serializer, transmitter with
  | some s, some e, some t => .ok { settings := s, serializer := e, transmitter := t, runId := runId }
  | _, _, _ =>
    .error (.report .internal "generator needs a configuration, a serializer and a transmitter")

/-- What sending a chunk came to: the number of octets sent, or a fault. -/
structure Sending (σ : Type) where
  state : σ
  context : Context
  result : Except Fault Nat
  entries : List Log.Entry := []

variable {σ : Type}

/-- Encode a chunk and hand it to the transmitter. -/
def Setup.send (u : Setup σ) (b : Batch) (c : Chunk) (ctx : Context) (s : σ) : Sending σ :=
  match u.serializer.encode (message u.settings.sourceName b c) with
  | .error f => ⟨s, ctx, .error f, []⟩
  | .ok bytes =>
    let o := u.transmitter ctx u.settings.transport.topic bytes s
    ⟨o.state, o.context,
      match o.fault with
      | some f => .error f
      | none => .ok bytes.length,
      o.entries⟩

/-- The span of a chunk. -/
def chunkSpan (c : Chunk) (result : Except Fault Nat) : Span :=
  let begun : Span :=
    { name := "generator.chunk"
      child := true
      attributes := [("seq", .number c.seq), ("offset", .number c.offset),
        ("length", .number c.length)] }
  match result with
  | .ok n => (begun.set "bytes" (.number n)).finish none
  | .error f => (begun.set "bytes" (.number 0)).finish (some f)

end DetectorStream.Run
