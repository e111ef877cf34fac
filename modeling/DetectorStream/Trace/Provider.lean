import DetectorStream.Json.Writer
import DetectorStream.Trace.Span

/-!
# Where spans go

A provider stamps spans with the service that they come from and passes on those that are sampled.
Every span that is started while a provider is installed has a context that travels with messages;
without a provider there is none.

* `Tracing.standard`: the provider of a program version.
* `Tracing.exported`: the spans that are passed on.
* `Tracing.headers`: the headers that carry the context of a span.
* `Tracing.render`: spans in print, each an object on a line of its own.
-/

namespace DetectorStream

/-- A provider of spans. -/
structure Tracing where
  service : Text := []
  version : Text := []
  environment : Text := []
  /-- The fraction of runs that are traced. -/
  rate : Float := 0
  /-- Are spans printed over several lines? -/
  pretty : Bool := false
  /-- How long spans may wait before they are passed on, in nanoseconds. -/
  batchTimeout : Int := 0

namespace Tracing

/-- The provider of a program version, in the environment that `ENVIRONMENT` names. -/
def standard (version environment : Text) : Tracing where
  service := "neventgen"
  version := version
  environment := if environment.isEmpty then "development" else environment
  rate := 1
  pretty := true
  batchTimeout := 5000000000

/-- Is every run traced? -/
def always (t : Tracing) : Bool := 1 ≤ t.rate

/-- What a provider says about itself with every span. -/
def resource (t : Tracing) : List (Text × Text) :=
  [(Text.ofString "service.name", t.service), (Text.ofString "service.version", t.version),
    (Text.ofString "deployment.environment", t.environment)]

/-- The spans that are passed on. `sampled` says whether a run that is traced by chance is. -/
def exported (t : Tracing) (sampled : Bool) (spans : List Span) : List Span :=
  if t.always || (0 < t.rate && sampled) then spans else []

/-- The names of the headers that carry the context of a span. -/
def headers : Option Tracing → List Text
  | some _ => [Text.ofString "traceparent"]
  | none => []

end Tracing

/-! ## Spans in print -/

/-- The value of an attribute in print. -/
def Attribute.render : Attribute → Text
  | text t => Json.quote t
  | number n => Decimal.ofInt n

/-- A span in print. -/
def Span.render (resource : List (Text × Text)) (s : Span) : Text :=
  Json.record [(Text.ofString "Name", Json.quote s.name),
    ("Attributes", Json.record (s.attributes.map fun (k, v) => (k, v.render))),
    ("Status", Json.record [(Text.ofString "Code", Json.quote s.status.name),
      ("Description", Json.quote s.status.description)]),
    ("Resource", Json.record (resource.map fun (k, v) => (k, Json.quote v)))]

/-- The spans that a provider passes on, in print. -/
def Tracing.render (t : Tracing) (spans : List Span) : Text :=
  (t.exported false spans).flatMap fun s => s.render t.resource ++ [0x0A]

end DetectorStream
