import DetectorStream.Flow.Controller
import DetectorStream.Metrics.Basic
import DetectorStream.Run.Chunk

/-!
# Runs

A run hands the chunks of a batch to a transmitter, one at a time and in order, as the flow
controller paces them. The first chunk that fails ends the run: nothing after it is sent, and the
report says what was sent before and which chunk it was.

* `Run.Report`: what a run came to.
* `Run.Setup.ask`, `Run.Setup.step`: ask for a chunk, and send it.
* `Run.loop`: chunk after chunk.
* `Run.run`: a whole run.
-/

namespace DetectorStream.Run

/-- What a run came to. -/
structure Report where
  messages : Nat := 0
  events : Nat := 0
  bytes : Nat := 0
  state : Flow.State := .idle
  failed : Option Chunk := none
  duration : Duration := 0
deriving DecidableEq, Repr

/-- One more message was delivered. -/
def Report.count (r : Report) (c : Chunk) (bytes : Nat) : Report :=
  { r with
    messages := r.messages + 1
    events := r.events + c.length
    bytes := r.bytes + bytes }

/-- A run that is going on. -/
structure Progress (σ : Type) where
  flow : Flow.Controller
  clock : Clock
  context : Context
  transmitter : σ
  report : Report := {}
  /-- When progress was last reported. -/
  reported : Int
  window : Throughput
  metrics : Metrics
  entries : Array Log.Entry := #[]
  spans : Array Span := #[]

variable {σ : Type}

/-- An entry of a run. -/
def Setup.entry (u : Setup σ) (level : Log.Level) (message : Text)
    (fields : List (Text × Log.Value)) : Log.Entry :=
  ⟨level, message,
    [(Text.ofString "component", .text "generator"), (Text.ofString "run_id", .text u.runId)] ++ fields⟩

/-- Add an entry. -/
def Progress.log (p : Progress σ) (e : Log.Entry) : Progress σ :=
  { p with entries := p.entries.push e }

/-- The counts of a report, as they are logged, and further values. -/
def Report.fields (r : Report) (more : List (Text × Log.Value)) : List (Text × Log.Value) :=
  ("messages_sent", .number r.messages) :: ("events_sent", .number r.events)
    :: ("bytes_sent", .number r.bytes) :: more

/-- The fault of a run whose chunk failed. It has the kind of its cause. -/
def chunkFault (c : Chunk) (f : Fault) : Fault :=
  ((Fault.wrap f.kind ("chunk " ++ Decimal.ofNat c.seq ++ " failed") f).withDetail
    "seq" (.number c.seq)).withDetail "offset" (.number c.offset)

/-- A chunk failed: the controller and the report take note. -/
def Setup.fail (u : Setup σ) (p : Progress σ) (c : Chunk) (f : Fault) : Progress σ :=
  { p with
    flow := (p.flow.fail f).1
    report := { p.report with failed := some c }
    metrics := p.metrics.failed f.isRetryable }.log
    (u.entry .error "chunk failed, aborting run"
      [("seq", .number c.seq), ("offset", .number c.offset), ("length", .number c.length),
        ("retryable", .flag f.isRetryable), ("error", .text f.text)])

/-- Report progress if it is time to. -/
def Setup.remind (u : Setup σ) (p : Progress σ) (c : Chunk) : Progress σ :=
  if 0 < u.settings.reportInterval then
    let (now, clock) := p.clock.read
    let p := { p with clock := clock }
    if u.settings.reportInterval ≤ Duration.saturate (now - p.reported) then
      let (window, rate) := p.window.close now
      { p with
        reported := now
        window := window
        metrics := match rate with
          | some r => { p.metrics with throughput := r }
          | none => p.metrics }.log
        (u.entry .info "progress"
          (p.report.fields [("pass", .number c.pass), ("events_per_sec", .real (rate.getD 0))]))
    else p
  else p

/-- A chunk was delivered in so many octets. -/
def Setup.delivered (u : Setup σ) (p : Progress σ) (c : Chunk) (bytes : Nat) : Progress σ :=
  u.remind
    { p with
      report := p.report.count c bytes
      window := p.window.add (Int64.ofNat c.length)
      metrics := p.metrics.sent c.length bytes (u.latency c.seq) } c

/-- Send a chunk; the run goes on unless it fails. -/
def Setup.step (u : Setup σ) (b : Batch) (c : Chunk) (p : Progress σ) : Progress σ × Option Fault :=
  let s := u.send b c p.context p.transmitter
  let p :=
    { p with
      context := s.context
      transmitter := s.state
      entries := p.entries ++ s.entries.toArray
      spans := p.spans.push (chunkSpan c s.result) }
  match s.result with
  | .error f => (u.fail p c f, some (chunkFault c f))
  | .ok n => (u.delivered p c n, none)

/-- The controller interrupted the run. -/
def Setup.interrupted (u : Setup σ) (p : Progress σ) (f : Fault) : Progress σ :=
  p.log (u.entry .warn "run interrupted"
    [("messages_sent", .number p.report.messages), ("error", .text f.text)])

/-- Ask the controller for the next chunk. -/
def Setup.ask (u : Setup σ) (p : Progress σ) : Progress σ × Flow.Next :=
  let (flow, clock, next) :=
    p.flow.next (u.waits p.flow p.context) (p.clock.advance (u.pause p.flow.emitted))
  ({ p with flow := flow, clock := clock }, next)

/-- Chunk after chunk, up to `fuel` of them. -/
def loop (u : Setup σ) (b : Batch) : (fuel : Nat) → Progress σ → Progress σ × Option Fault
  | 0, p => (p, none)
  | fuel + 1, p =>
    match u.ask p with
    | (p, .finished) => (p, none)
    | (p, .failed f) => (u.interrupted p f, some f)
    | (p, .chunk c) =>
      match u.step b c p with
      | (p, some f) => (p, some f)
      | (p, none) => loop u b fuel p

/-- The entry of a run that went through, at the end of the time `elapsed`. -/
def Setup.completed (u : Setup σ) (r : Report) (elapsed : Duration) : Log.Entry :=
  let rate := if 0 < elapsed then Throughput.rate r.events elapsed else 0
  u.entry .info "run completed"
    (r.fields [("duration", .duration elapsed), ("events_per_sec", .real rate)])

/-- The entry of a run that begins. -/
def Setup.starting (u : Setup σ) (total : Nat) : Log.Entry :=
  u.entry .info "starting run"
    [("topic", .text u.settings.transport.topic), ("format", .text u.serializer.name),
      ("events", .number total), ("events_per_message", .number u.settings.messageSize.toInt),
      ("messages_per_pass",
        .number (chunkCount (Int64.ofNat total) u.settings.messageSize).toInt),
      ("repeat", .number u.settings.flow.passes.toInt)]

/-- The span of a run. -/
def Setup.span (u : Setup σ) (total : Nat) (r : Report) (fault : Option Fault) : Span :=
  Span.finish
    { name := "generator.run"
      attributes := [("run.id", .text u.runId), ("topic", .text u.settings.transport.topic),
        ("events", .number total), ("chunk_size", .number u.settings.messageSize.toInt),
        ("repeat", .number u.settings.flow.passes.toInt),
        ("messages_sent", .number r.messages), ("state", .text r.state.name)] }
    fault

/-- The pacing that the settings ask for. -/
def pacing (s : Settings) : Flow.Params where
  chunkSize := s.messageSize
  delay := s.flow.delay
  rate := s.flow.rate
  passes := s.flow.passes
  budget := s.flow.duration

/-- What a run works on and leaves behind. -/
structure World (σ : Type) where
  clock : Clock
  context : Context := .live
  transmitter : σ
  metrics : Metrics := {}

/-- A run and what it came to. -/
structure Result (σ : Type) where
  world : World σ
  report : Report
  fault : Option Fault
  entries : Array Log.Entry := #[]
  spans : Array Span := #[]

/-- The main part of a run: the chunks, and the entry at their end. -/
def Setup.stream (u : Setup σ) (b : Batch) (start : Int) (p : Progress σ) :
    Progress σ × Option Fault :=
  match p.context.fault? with
  | some f => (p, some (Fault.wrap .cancelled "run cancelled before start" f))
  | none =>
    match loop u b (p.flow.passes * Chunk.perPass p.flow.total p.flow.chunkSize + 1) p with
    | (p, some f) => (p, some f)
    | (p, none) =>
      let (now, clock) := p.clock.read
      ({ p with clock := clock }.log (u.completed p.report (Duration.saturate (now - start))), none)

/-- Send a batch. An empty batch succeeds without sending anything. -/
def run (u : Setup σ) (b : Batch) (w : World σ) : Result σ :=
  let (start, clock) := w.clock.read
  match Flow.Controller.make (Int64.ofNat b.size) (pacing u.settings) with
  | .error f => ⟨{ w with clock := clock }, {}, some f, #[], #[]⟩
  | .ok flow =>
    let (p, fault) := u.stream b start
      { flow := flow
        clock := clock
        context := w.context
        transmitter := w.transmitter
        reported := start
        window := { since := start }
        metrics := w.metrics
        entries := #[u.starting b.size] }
    let (now, clock) := p.clock.read
    let report :=
      { p.report with state := p.flow.state, duration := Duration.saturate (now - start) }
    { world := ⟨clock, p.context, p.transmitter, p.metrics⟩
      report := report
      fault := fault
      entries := p.entries
      spans := p.spans.push (u.span b.size report fault) }

end DetectorStream.Run
