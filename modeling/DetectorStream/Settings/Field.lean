import DetectorStream.Settings.Basic

/-!
# The fields of the settings

The settings have a written form, in which every field has a key: a name, in one of three sections
or in none. `Field.all` lists the fields in the order in which they are written. Each field comes
with the way to read it off the settings and to put a new value in, so that writing, reading and
merging settings are each said once, for a field of a given type.
-/

namespace DetectorStream

/-- How to read a part of the settings and how to replace it. -/
structure Lens (α : Type) where
  get : Settings → α
  set : α → Settings → Settings

/-- A field by the type of its values. -/
inductive Slot
  | text (at_ : Lens Text)
  | texts (at_ : Lens (List Text)) (omitEmpty : Bool)
  | word (at_ : Lens Int64)
  | shortWord (at_ : Lens Int32)
  | flag (at_ : Lens Bool)
  | number (at_ : Lens Float)
  | duration (at_ : Lens Duration)

namespace Slot

/-- The type of the values of a field. -/
abbrev Content : Slot → Type
  | text _ => Text
  | texts _ _ => List Text
  | word _ => Int64
  | shortWord _ => Int32
  | flag _ => Bool
  | number _ => Float
  | duration _ => Duration

/-- Where a field is in the settings. -/
def lens : (slot : Slot) → Lens slot.Content
  | text l => l
  | texts l _ => l
  | word l => l
  | shortWord l => l
  | flag l => l
  | number l => l
  | duration l => l

end Slot

/-- A field of the settings. -/
structure Field where
  /-- The section the field is written in; empty for none. -/
  group : String
  name : String
  slot : Slot

namespace Field

/-- The key of a field: its section and its name with a point between them. -/
def key (f : Field) : Text :=
  if f.group.isEmpty then f.name else f.group ++ "." ++ f.name

/-- A part of the transport. -/
def ofTransport {α : Type} (get : TransportSettings → α)
    (set : α → TransportSettings → TransportSettings) : Lens α :=
  ⟨fun s => get s.transport, fun a s => { s with transport := set a s.transport }⟩

/-- A part of the pacing. -/
def ofFlow {α : Type} (get : FlowSettings → α) (set : α → FlowSettings → FlowSettings) : Lens α :=
  ⟨fun s => get s.flow, fun a s => { s with flow := set a s.flow }⟩

/-- A part of the logging. -/
def ofLog {α : Type} (get : LogSettings → α) (set : α → LogSettings → LogSettings) : Lens α :=
  ⟨fun s => get s.log, fun a s => { s with log := set a s.log }⟩

/-- The fields before the sections. -/
def leading : List Field :=
  [⟨"", "source", .text ⟨Settings.source, fun a s => { s with source := a }⟩⟩,
   ⟨"", "source_name", .text ⟨Settings.sourceName, fun a s => { s with sourceName := a }⟩⟩,
   ⟨"", "multiplier", .word ⟨Settings.multiplier, fun a s => { s with multiplier := a }⟩⟩,
   ⟨"", "time_offset", .shortWord ⟨Settings.timeOffset, fun a s => { s with timeOffset := a }⟩⟩,
   ⟨"", "bytes", .word ⟨Settings.bytes, fun a s => { s with bytes := a }⟩⟩,
   ⟨"", "format", .text ⟨Settings.format, fun a s => { s with format := a }⟩⟩,
   ⟨"", "memory_limit", .word ⟨Settings.memoryLimit, fun a s => { s with memoryLimit := a }⟩⟩]

/-- The fields of the section on the transport. -/
def ofTransportSection : List Field :=
  let g := "transport"
  [⟨g, "kind", .text (ofTransport (·.kind) fun a t => { t with kind := a })⟩,
   ⟨g, "brokers", .texts (ofTransport (·.brokers) fun a t => { t with brokers := a }) false⟩,
   ⟨g, "topic", .text (ofTransport (·.topic) fun a t => { t with topic := a })⟩,
   ⟨g, "client_id", .text (ofTransport (·.clientId) fun a t => { t with clientId := a })⟩,
   ⟨g, "acks", .text (ofTransport (·.acks) fun a t => { t with acks := a })⟩,
   ⟨g, "compression", .text (ofTransport (·.compression) fun a t => { t with compression := a })⟩,
   ⟨g, "idempotent", .flag (ofTransport (·.idempotent) fun a t => { t with idempotent := a })⟩,
   ⟨g, "max_message_bytes",
     .word (ofTransport (·.maxMessageBytes) fun a t => { t with maxMessageBytes := a })⟩,
   ⟨g, "timeout", .duration (ofTransport (·.timeout) fun a t => { t with timeout := a })⟩,
   ⟨g, "retries", .word (ofTransport (·.retries) fun a t => { t with retries := a })⟩,
   ⟨g, "retry_backoff",
     .duration (ofTransport (·.retryBackoff) fun a t => { t with retryBackoff := a })⟩,
   ⟨g, "max_retry_backoff",
     .duration (ofTransport (·.maxRetryBackoff) fun a t => { t with maxRetryBackoff := a })⟩]

/-- The fields of the section on pacing. -/
def ofFlowSection : List Field :=
  let g := "flow"
  [⟨g, "events_per_message",
     .word (ofFlow (·.eventsPerMessage) fun a f => { f with eventsPerMessage := a })⟩,
   ⟨g, "delay", .duration (ofFlow (·.delay) fun a f => { f with delay := a })⟩,
   ⟨g, "rate", .number (ofFlow (·.rate) fun a f => { f with rate := a })⟩,
   ⟨g, "repeat", .word (ofFlow (·.passes) fun a f => { f with passes := a })⟩,
   ⟨g, "duration", .duration (ofFlow (·.duration) fun a f => { f with duration := a })⟩]

/-- The fields between the sections on pacing and on logging. -/
def trailing : List Field :=
  [⟨"", "report_interval",
     .duration ⟨Settings.reportInterval, fun a s => { s with reportInterval := a }⟩⟩,
   ⟨"", "metrics_addr", .text ⟨Settings.metricsAddr, fun a s => { s with metricsAddr := a }⟩⟩,
   ⟨"", "tracing", .flag ⟨Settings.tracing, fun a s => { s with tracing := a }⟩⟩]

/-- The fields of the section on logging. -/
def ofLogSection : List Field :=
  let g := "log"
  [⟨g, "level", .text (ofLog (·.level) fun a l => { l with level := a })⟩,
   ⟨g, "development", .flag (ofLog (·.development) fun a l => { l with development := a })⟩,
   ⟨g, "encoding", .text (ofLog (·.encoding) fun a l => { l with encoding := a })⟩,
   ⟨g, "output_paths", .texts (ofLog (·.outputPaths) fun a l => { l with outputPaths := a }) true⟩]

/-- All fields, in the order in which they are written. -/
def all : List Field := leading ++ ofTransportSection ++ ofFlowSection ++ trailing ++ ofLogSection

/-- The names of the sections. -/
def groups : List String := ["transport", "flow", "log"]

end Field

end DetectorStream
