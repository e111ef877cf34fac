import DetectorStream.Duration

/-!
# Metrics

Counters over all messages of a program, the distribution of the time that messages take, and the
last throughput. The page on which they are published lists the families by name; the failures
appear once there has been one.

Throughput is counted in windows. Closing a window gives its rate in events per second and opens the
next one; a window in which no time has passed has no rate and stays open.

* `Metrics.sent`, `Metrics.failed`: what happened to a message.
* `Metrics.page`: the text that is published.
* `Throughput.add`: count events.
* `Throughput.close`: the rate of the window, and the next window.
-/

namespace DetectorStream

/-- Times that messages took, sorted into buckets. -/
structure Histogram where
  /-- How many times were at most the bound of each bucket and above the one before. -/
  buckets : List Nat
  count : Nat := 0
  sum : Float := 0

namespace Histogram

/-- The upper bounds of the buckets, in seconds. -/
def bounds : List Float := [0.0001, 0.001, 0.005, 0.01, 0.05, 0.1, 0.5, 1, 5]

/-- Nothing has been observed. -/
def empty : Histogram := { buckets := bounds.map fun _ => 0 }

/-- Add one to the first bucket whose bound is not below `x`. -/
def place (x : Float) : List Float → List Nat → List Nat
  | b :: bs, n :: ns => if x ≤ b then (n + 1) :: ns else n :: place x bs ns
  | _, ns => ns

/-- Observe a time. -/
def observe (h : Histogram) (x : Float) : Histogram where
  buckets := place x bounds h.buckets
  count := h.count + 1
  sum := h.sum + x

/-- The number of observations up to each bound. -/
def cumulative : (below : Nat) → List Nat → List Nat
  | _, [] => []
  | below, n :: ns => (below + n) :: cumulative (below + n) ns

end Histogram

/-- The state of all metrics. -/
structure Metrics where
  messages : UInt64 := 0
  events : UInt64 := 0
  bytes : UInt64 := 0
  /-- Messages that failed for good. -/
  lost : Nat := 0
  /-- Messages that failed with a retry hint. -/
  lostRetryable : Nat := 0
  latency : Histogram := .empty
  throughput : Float := 0

namespace Metrics

/-- A count as a counter holds it, which is a double. -/
def amount (n : Int) : UInt64 := (Binary64.ofInt n).toUInt64

/-- A message was delivered. -/
def sent (m : Metrics) (events bytes : Nat) (latency : Duration) : Metrics :=
  { m with
    messages := m.messages + 1
    events := m.events + amount events
    bytes := m.bytes + amount bytes
    latency := m.latency.observe latency.seconds }

/-- A message was delivered, as told by a caller; counters do not go down, so that a negative amount
is a crash. -/
def sent? (m : Metrics) (events bytes : Int64) (latency : Duration) : Option Metrics :=
  if events < 0 || bytes < 0 then none
  else some (m.sent events.toInt.toNat bytes.toInt.toNat latency)

/-- A message could not be delivered. -/
def failed (m : Metrics) (retryable : Bool) : Metrics :=
  if retryable then { m with lostRetryable := m.lostRetryable + 1 } else { m with lost := m.lost + 1 }

/-! ## The page -/

/-- A number on the page. -/
def numberText (f : Float) : Text := if f == 0 then "0" else FloatStyle.general.render f

/-- A whole number on the page. -/
def countText (n : Nat) : Text := numberText (Binary64.ofInt n)

/-- A family of metrics: name, explanation, type and samples. -/
structure Family where
  name : Text
  help : Text
  type : Text
  /-- What follows the name, and the value. -/
  samples : List (Text × Text)

/-- The lines of a family. -/
def Family.lines (f : Family) : List Text :=
  let name := Text.ofString "neventgen_" ++ f.name
  [Text.ofString "# HELP " ++ name ++ " " ++ f.help, Text.ofString "# TYPE " ++ name ++ " " ++ f.type]
    ++ f.samples.map fun (label, value) => name ++ label ++ " " ++ value

/-- A label on a sample. -/
def labelled (suffix key value : Text) : Text :=
  suffix ++ "\x7b" ++ key ++ "=\"" ++ value ++ "\"\x7d"

/-- The samples of failed messages; a classification appears once it has occurred. -/
def failureSamples (m : Metrics) : List (Text × Text) :=
  [(Text.ofString "false", m.lost), (Text.ofString "true", m.lostRetryable)].filterMap fun (v, n) =>
    if n == 0 then none else some (labelled [] "retryable" v, countText n)

/-- The samples of a histogram. -/
def histogramSamples (h : Histogram) : List (Text × Text) :=
  List.zipWith (fun b n => (labelled "_bucket" "le" (numberText b), countText n))
      Histogram.bounds (Histogram.cumulative 0 h.buckets)
    ++ [(labelled "_bucket" "le" "+Inf", countText h.count),
      (Text.ofString "_sum", numberText h.sum), (Text.ofString "_count", countText h.count)]

/-- The families by name. -/
def families (m : Metrics) : List Family :=
  [⟨"bytes_sent_total", "Encoded payload bytes sent", "counter", [([], countText m.bytes.toNat)]⟩,
    ⟨"events_sent_total", "Detector events carried by sent messages", "counter",
      [([], countText m.events.toNat)]⟩,
    ⟨"messages_sent_total", "Messages accepted by the broker", "counter",
      [([], countText m.messages.toNat)]⟩,
    ⟨"send_failures_total", "Messages that could not be delivered", "counter", m.failureSamples⟩,
    ⟨"send_latency_seconds", "Encode and transmit time per message", "histogram",
      histogramSamples m.latency⟩,
    ⟨"throughput_events_per_second", "Events per second over the last progress interval", "gauge",
      [([], numberText m.throughput)]⟩]

/-- The type of the page. -/
def contentType : String := "text/plain; version=0.0.4; charset=utf-8; escaping=underscores"

/-- The lines of the page; a family without samples is left out. -/
def page (m : Metrics) : List Text :=
  (m.families.filter fun f => !f.samples.isEmpty).flatMap Family.lines

end Metrics

/-- A window in which events are counted. -/
structure Throughput where
  /-- When the window was opened, in nanoseconds. -/
  since : Int
  count : Int64 := 0
deriving DecidableEq, Repr

namespace Throughput

/-- Count `n` more events. -/
def add (t : Throughput) (n : Int64) : Throughput := { t with count := t.count + n }

/-- `n` events in a span of time, per second. -/
def rate (n : Int) (elapsed : Duration) : Float := Binary64.ofInt n / elapsed.seconds

/-- Close the window at `now`. -/
def close (t : Throughput) (now : Int) : Throughput × Option Float :=
  let elapsed := Duration.saturate (now - t.since)
  if elapsed ≤ 0 then (t, none) else ({ since := now }, some (rate t.count.toInt elapsed))

end Throughput

end DetectorStream
