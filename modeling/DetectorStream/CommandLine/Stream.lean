import DetectorStream.CommandLine.Session
import DetectorStream.Delivery.FileSink
import DetectorStream.Delivery.Kafka.Transmitter
import DetectorStream.Delivery.Verify
import DetectorStream.Run.Basic
import DetectorStream.Settings.Document
import DetectorStream.Settings.Resolve
import DetectorStream.Source.Acquire
import DetectorStream.Trace.Provider
import DetectorStream.CommandLine.Command

/-!
# Streaming

The commands that stream events: `run` delivers them to the transport of the settings, `encode` to a
file of frames, which it empties before and can check afterwards. Both show the settings that they
go by.

* `CommandLine.stream`: one run as the settings describe it.
* `CommandLine.run`, `CommandLine.encode`: the commands.
-/

namespace DetectorStream.CommandLine

/-- What a run leaves: the session, the log entries and the report. -/
structure Streamed where
  session : Session
  entries : List Log.Entry := []
  report : Except Stop Run.Report

/-- Run over a transmitter. -/
def runOver {σ : Type} (s : Session) (cfg : Settings) (format : Format) (b : Batch)
    (t : Delivery.Transmitter σ) (start : σ) : Run.Result σ :=
  Run.run
    { settings := cfg
      serializer := .ofFormat format
      transmitter := t.withRetry (Delivery.policyOf cfg.transport) fun _ => {}
      runId := s.host.runId } b
    { clock := s.host.clock, transmitter := start }

/-- The provider of spans for this version of the program. -/
def tracing (s : Session) : Tracing :=
  .standard programVersion ((s.host.environment.lookup (Text.ofString "ENVIRONMENT")).getD [])

/-- What is left of a run: the clock has moved on, and the spans are printed if they are asked
for. -/
def settle {σ : Type} (s : Session) (cfg : Settings) (r : Run.Result σ) : Streamed :=
  let s := { s with host := { s.host with clock := r.world.clock } }
  { session :=
      if cfg.tracing then { s with data := s.data ++ (tracing s).render r.spans.toList } else s
    entries := r.entries.toList
    report := match r.fault with
      | some f => .error (.fault f)
      | none => .ok r.report }

/-- Deliver a batch to an endpoint. -/
def deliver (s : Session) (cfg : Settings) (format : Format) (b : Batch) :
    Delivery.Endpoint → Streamed
  | .file =>
    let r := runOver s cfg format b Delivery.FileSink.send { files := s.host.files }
    let sink := r.world.transmitter.close
    settle { s.withFiles sink.files with data := s.data ++ sink.output } cfg r
  | .kafka _ =>
    settle s cfg (runOver s cfg format b (Delivery.Kafka.send s.host.produce)
      { key := cfg.transport.clientId, label := ⟨s.host.runId, cfg.format, []⟩ })
  | .nats _ =>
    settle s cfg (runOver s cfg format b Delivery.Nats.send
      { connection := {}, label := ⟨s.host.runId, cfg.format, []⟩ })

/-- An entry about a failure. -/
def failure (message : Text) (fields : List (Text × Log.Value)) (f : Stop) : Log.Entry :=
  ⟨.error, message, fields ++ match f with
    | .fault f => [(Text.ofString "error", .text f.text)]
    | .crash => []⟩

/-- A run that fails before it starts. -/
def refused (s : Session) (entries : List Log.Entry) (message : Text)
    (fields : List (Text × Log.Value)) (f : Stop) : Streamed :=
  ⟨s, entries ++ [failure message fields f], .error f⟩

/-- Deliver a batch as the settings say. -/
def connected (s : Session) (cfg : Settings) (b : Batch) : Streamed :=
  match Format.ofName cfg.format with
  | .error f => ⟨s, [], .error (.fault f)⟩
  | .ok format =>
    match Delivery.connect s.host.reach cfg.transport with
    | .error f =>
      refused s [] "failed to connect transport" [("transport", .text cfg.transport.kind)] f
    | .ok endpoint => deliver s cfg format b endpoint

/-- Acquire the events of the settings and deliver them. -/
def acquired (s : Session) (cfg : Settings) : Streamed :=
  let origins := { s.host.origins with files := s.host.files }
  match Source.acquire origins none s.host.memory cfg with
  | (.error e, entries) => refused s entries "failed to acquire events" [("source", .text cfg.source)] e
  | (.ok b, entries) =>
    let r := connected s cfg b
    { r with entries := entries ++ r.entries }

/-- Check the settings, and do what they say. -/
def checked (s : Session) (cfg : Settings) : Streamed :=
  match cfg.check with
  | .error f => refused s [] "invalid configuration" [] f
  | .ok () => acquired s cfg

/-- What all entries of a run carry. -/
def common (s : Session) (cfg : Settings) : List (Text × Log.Value) :=
  [("run_id", .text s.host.runId), ("topic", .text cfg.transport.topic),
    ("component", .text "neventgen-cli")]

/-- One run as the settings describe it. -/
def stream (s : Session) (cfg : Settings) : Session × Except Stop Run.Report :=
  match Log.Style.ofSettings cfg.log with
  | .error f => (s, .error (.fault f))
  | .ok style =>
    match Log.outputs s.host.files cfg.log with
    | (fs, .error f) => (s.withFiles fs, .error (.fault f))
    | (fs, .ok outputs) =>
      let r := checked (s.withFiles fs) cfg
      let entries := r.entries.map (Log.Entry.under · (common s cfg))
      (r.session.record outputs (style.lines s.host.stamp entries), r.report)

/-! ## The commands -/

/-- The settings as they are shown. -/
def shown (cfg : Settings) : Text := Text.ofString "# effective configuration\n" ++ cfg.document

/-- The settings of a command line. -/
def settingsOf (s : Session) (p : Flag.Parsed) : Except Fault Settings :=
  let path := match p.get? "config" with
    | some (.text t) => t
    | _ => []
  Settings.resolve (fun _ => true) p.get? s.host.environment s.host.files path

/-- Stream events to the transport of the settings. -/
def run (p : Flag.Parsed) (s : Session) : Session × Option Stop :=
  match settingsOf s p with
  | .error f => (s, some (.fault f))
  | .ok cfg =>
    match stream (s.say (shown cfg)) cfg with
    | (s, .error e) => (s, some e)
    | (s, .ok _) => (s, none)

/-- The settings of `encode`: the transport is a file, by default the standard output. -/
def encodeSettings (cfg : Settings) : Settings :=
  let topic :=
    if cfg.transport.topic.isEmpty then Delivery.FileSink.standardOutput else cfg.transport.topic
  { cfg with transport := { cfg.transport with kind := "file", topic := topic } }

/-- Empty the output file, if there is one. -/
def reset (fs : Files) (path : Text) : Except Fault Files :=
  if path == Delivery.FileSink.standardOutput then .ok fs
  else
    match fs.truncate path with
    | .ok fs => .ok fs
    | .error .noEntry => .ok fs
    | .error e =>
      .error (Fault.wrap .configuration "cannot reset output file" (e.fault "truncate" path))

/-- Compare a file of frames with the report of the run that wrote it. -/
def verified (fs : Files) (cfg : Settings) (r : Run.Report) : Except Fault Unit :=
  match Verify.file fs cfg.transport.topic cfg.format with
  | .error f => .error f
  | .ok (messages, events) =>
    if messages = r.messages ∧ events = r.events then .ok ()
    else
      .error (.report .encoding ("verification found " ++ Decimal.ofNat messages ++ " messages with "
        ++ Decimal.ofNat events ++ " events, sent " ++ Decimal.ofNat r.messages ++ " with "
        ++ Decimal.ofNat r.events))

/-- What `encode` says in the end. -/
def encoded (r : Run.Report) : Text :=
  Text.ofString "encoded " ++ Decimal.ofNat r.messages ++ " messages (" ++ Decimal.ofNat r.events
    ++ " events, " ++ Decimal.ofNat r.bytes ++ " bytes)\n"

/-- Encode events into a file of frames, with settings that are complete. -/
def encodeWith (verify : Bool) (cfg : Settings) (s : Session) : Session × Option Stop :=
  if verify && cfg.transport.topic == Delivery.FileSink.standardOutput then
    (s, some (.fault (.report .configuration "--verify needs an output file in --topic")))
  else
    match reset s.host.files cfg.transport.topic with
    | .error f => (s, some (.fault f))
    | .ok fs =>
      match stream ((s.withFiles fs).remark (shown cfg)) cfg with
      | (s, .error e) => (s, some e)
      | (s, .ok r) =>
        match if verify then verified s.host.files cfg r else .ok () with
        | .error f => (s, some (.fault f))
        | .ok () => (s.remark (encoded r), none)

/-- Encode events into a file of frames. -/
def encode (p : Flag.Parsed) (s : Session) : Session × Option Stop :=
  match settingsOf s p with
  | .error f => (s, some (.fault f))
  | .ok cfg =>
    let verify := match p.get? "verify" with
      | some (.flag b) => b
      | _ => false
    encodeWith verify (encodeSettings cfg) s

end DetectorStream.CommandLine
