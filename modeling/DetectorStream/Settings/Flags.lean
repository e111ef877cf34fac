import DetectorStream.CommandLine.Flag
import DetectorStream.Settings.Field

/-!
# Flags of the settings

Every field but the list of log outputs can be given on the command line. A flag takes values of the
type of its field.
-/

namespace DetectorStream.Settings

/-- The names of the flags, their letters, the keys of their fields and what they are for. -/
def flagKeys : List (String × Option UInt8 × String × String) :=
  [("source", some 0x73, "source",
     "Source identifier: file path, s3://bucket/key, gs://bucket/object or synth://?events=N"),
   ("source-name", none, "source_name",
     "Source name written into every message"),
   ("multiplier", some 0x6D, "multiplier",
     "Amplification factor applied to the source events"),
   ("time-offset", none, "time_offset",
     "Timestamp shift added to each amplified copy"),
   ("bytes", some 0x62, "bytes",
     "Target payload bytes per message (conflicts with --multiplier > 1)"),
   ("format", none, "format",
     "Wire format (ev42, json)"),
   ("memory-limit", none, "memory_limit",
     "Maximum bytes per event batch (0 = available host memory)"),
   ("transport", none, "transport.kind",
     "Transport kind (kafka, nats, file)"),
   ("broker", none, "transport.brokers",
     "Broker endpoints, comma separated"),
   ("topic", some 0x74, "transport.topic",
     "Destination topic, subject or file path"),
   ("client-id", none, "transport.client_id",
     "Producer client ID"),
   ("acks", none, "transport.acks",
     "Required acknowledgements (all, 1, 0)"),
   ("compression", none, "transport.compression",
     "Producer compression (none, gzip, snappy, lz4, zstd)"),
   ("idempotent", none, "transport.idempotent",
     "Enable the idempotent producer"),
   ("max-message-bytes", none, "transport.max_message_bytes",
     "Maximum size of a produced message"),
   ("send-timeout", none, "transport.timeout",
     "Timeout for a single send"),
   ("retries", none, "transport.retries",
     "Retries for retryable send failures"),
   ("retry-backoff", none, "transport.retry_backoff",
     "Initial delay between retries"),
   ("max-retry-backoff", none, "transport.max_retry_backoff",
     "Maximum delay between retries"),
   ("events-per-message", some 0x6E, "flow.events_per_message",
     "Events per message"),
   ("delay", none, "flow.delay",
     "Delay between messages"),
   ("rate", none, "flow.rate",
     "Maximum messages per second (0 = unlimited)"),
   ("repeat", none, "flow.repeat",
     "Number of passes over the event data"),
   ("duration", none, "flow.duration",
     "Stop producing after this long (0 = unlimited)"),
   ("report-interval", none, "report_interval",
     "Progress log interval (0 disables)"),
   ("metrics-addr", none, "metrics_addr",
     "Prometheus listen address, e.g. :9100"),
   ("tracing", none, "tracing",
     "Print OpenTelemetry spans to stdout"),
   ("log-level", none, "log.level",
     "Log level (debug, info, warn, error)"),
   ("log-encoding", none, "log.encoding",
     "Log encoding (json, console)"),
   ("log-development", none, "log.development",
     "Development logging")]

/-- The type of the values of a field on the command line. -/
def flagType : Slot → FlagType
  | .text _ => .text
  | .texts _ _ => .texts
  | .word _ => .whole 64
  | .shortWord _ => .whole 32
  | .flag _ => .flag
  | .number _ => .real
  | .duration _ => .duration

/-- The value of a field as the value of a flag. -/
def flagValue (s : Settings) : Slot → Flag.Value
  | .text l => .text (l.get s)
  | .texts l _ => .texts (l.get s)
  | .word l => .whole (l.get s).toInt
  | .shortWord l => .whole (l.get s).toInt
  | .flag l => .flag (l.get s)
  | .number l => .real (l.get s)
  | .duration l => .duration (l.get s)

/-- The flags of the settings. -/
def flags : List Flag :=
  flagKeys.filterMap fun (name, letter, key, purpose) =>
    (Field.all.find? fun f => f.key == Text.ofString key).map fun f =>
      { name := name
        letter := letter
        type := flagType f.slot
        purpose := purpose
        standard := flagValue .standard f.slot }

end DetectorStream.Settings
