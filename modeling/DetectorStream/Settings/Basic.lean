import DetectorStream.Duration
import DetectorStream.Fault.Basic

/-!
# Settings

One value of `Settings` describes a run: where the events come from, how often they are copied, how
they are framed into messages, how fast these are sent, and where to. Any value of the types can be
written down; `Settings.check` says which ones describe a run.

* `Settings.standard`: the settings of a run that says nothing.
* `Settings.check`: the first rule that the settings break.
* `Settings.messageSize`: the number of events in a full message.
-/

namespace DetectorStream

/-- How messages are delivered. -/
structure TransportSettings where
  /-- `kafka`, `nats` or `file`. -/
  kind : Text := "kafka"
  /-- The endpoints of the brokers. -/
  brokers : List Text := ["localhost:9092"]
  /-- The topic, the subject or the path of the output. -/
  topic : Text := []
  /-- The name under which a producer introduces itself. -/
  clientId : Text := "neventgen"
  /-- How many copies a broker has to confirm: `all`, `1` or `0`. -/
  acks : Text := "all"
  /-- How a producer compresses what it sends. -/
  compression : Text := "none"
  /-- Does a producer guard against duplicates? -/
  idempotent : Bool := false
  /-- The size of the largest message. -/
  maxMessageBytes : Int64 := 10485760
  /-- How long one message may take. -/
  timeout : Duration := .ofSeconds 10
  /-- How often a failed message is sent again. -/
  retries : Int64 := 3
  /-- The first pause before sending again. -/
  retryBackoff : Duration := .milliseconds 100
  /-- The longest pause before sending again. -/
  maxRetryBackoff : Duration := .ofSeconds 5

/-- How the events are paced. -/
structure FlowSettings where
  /-- The number of events in a full message. -/
  eventsPerMessage : Int64 := 1000
  /-- The pause between messages. -/
  delay : Duration := 0
  /-- The largest number of messages in a second; 0 stands for no limit. -/
  rate : Float := 0
  /-- How often the events are gone through. -/
  passes : Int64 := 1
  /-- How long a run may take; 0 stands for no limit. -/
  duration : Duration := 0

/-- What is logged, and how. -/
structure LogSettings where
  level : Text := "info"
  development : Bool := false
  encoding : Text := "json"
  outputPaths : List Text := []
deriving DecidableEq

/-- The description of a run. -/
structure Settings where
  /-- Where the events come from. -/
  source : Text := []
  /-- The name written into every message. -/
  sourceName : Text := "neventgen"
  /-- How many copies of the events are made. -/
  multiplier : Int64 := 1
  /-- By how much each copy is later than the one before. -/
  timeOffset : Int32 := 0
  /-- The size of the events in a message; 0 stands for "as many as the flow says". -/
  bytes : Int64 := 0
  /-- The encoding of messages. -/
  format : Text := "ev42"
  /-- The size of the largest batch; 0 stands for the memory of the host. -/
  memoryLimit : Int64 := 0
  transport : TransportSettings := {}
  flow : FlowSettings := {}
  /-- The time between progress reports; 0 stands for none. -/
  reportInterval : Duration := .ofSeconds 10
  /-- Where metrics are served; empty for nowhere. -/
  metricsAddr : Text := []
  /-- Are spans printed? -/
  tracing : Bool := false
  log : LogSettings := {}

namespace Settings

/-- The settings of a run that says nothing. -/
def standard : Settings := {}

/-- The size of one event. -/
def eventSize : Int64 := 12

/-- A rule of the settings is broken. -/
def broken (message : Text) : Fault := .report .configuration message

end Settings

/-- The first rule that the transport breaks. -/
def TransportSettings.check (t : TransportSettings) : Except Fault Unit :=
  if t.topic.isEmpty then .error (Settings.broken "topic is required")
  else if (t.kind == "kafka" || t.kind == "nats") && t.brokers.isEmpty then
    .error (Settings.broken ("at least one broker is required for " ++ t.kind))
  else if !(t.kind == "kafka" || t.kind == "nats" || t.kind == "file") then
    .error (Settings.broken ("unknown transport kind " ++ Text.quote t.kind))
  else if t.retries < 0 then .error (Settings.broken "retries cannot be negative")
  else if t.timeout < 0 || t.retryBackoff < 0 || t.maxRetryBackoff < 0 then
    .error (Settings.broken "transport durations cannot be negative")
  else .ok ()

namespace Settings

/-- The first rule that the settings break. The conflict between the two ways to size a run is
reported whatever else is wrong. -/
def check (s : Settings) : Except Fault Unit :=
  if 0 < s.bytes && 1 < s.multiplier then
    .error ((broken "conflict between parameters `bytes` and `multiplier`").withDetail "bytes"
      (.number s.bytes.toInt) |>.withDetail "multiplier" (.number s.multiplier.toInt))
  else if s.source.isEmpty then .error (broken "source is required")
  else if s.multiplier < 1 then
    .error (broken ("multiplier must be >= 1, got " ++ Decimal.ofInt s.multiplier.toInt))
  else if s.bytes < 0 then .error (broken "bytes cannot be negative")
  else if s.bytes == 0 && s.flow.eventsPerMessage < 1 then
    .error (broken "events_per_message must be positive")
  else if s.flow.passes < 1 then
    .error (broken ("repeat must be >= 1, got " ++ Decimal.ofInt s.flow.passes.toInt))
  else if s.flow.delay < 0 || s.flow.duration < 0 || s.reportInterval < 0 then
    .error (broken "durations cannot be negative")
  else if s.flow.rate < 0 then .error (broken "rate cannot be negative")
  else if s.memoryLimit < 0 then .error (broken "memory_limit cannot be negative")
  else if !(s.format == "ev42" || s.format == "json") then
    .error (broken ("unknown format " ++ Text.quote s.format))
  else s.transport.check

/-- The number of events in a full message. A size in bytes comes first; it is rounded down to
whole events, and to at least one. -/
def messageSize (s : Settings) : Int64 :=
  if 0 < s.bytes then
    let n := s.bytes / eventSize
    if n < 1 then 1 else n
  else s.flow.eventsPerMessage

end Settings

end DetectorStream
