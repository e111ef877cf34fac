import DetectorStream.Fault.Basic

/-!
# Spans

A span is a named stretch of work with attributes. It ends well or with a fault, which it then
records as an exception, as its status and as the attribute `error.type`.

* `Span.with`: set an attribute.
* `Span.finish`: end a span.
-/

namespace DetectorStream

/-- The value of an attribute. -/
inductive Attribute
  | text (t : Text)
  | number (n : Int)
deriving DecidableEq, Repr

/-- How a span ended. -/
inductive Status
  | unset
  | ok
  | error (description : Text)
deriving DecidableEq, Repr

namespace Status

/-- The name of a status. -/
def name : Status → String
  | unset => "Unset"
  | ok => "Ok"
  | error _ => "Error"

/-- What the status says beyond its name. -/
def description : Status → Text
  | error d => d
  | _ => []

end Status

/-- A stretch of work. -/
structure Span where
  name : Text
  /-- Does it lie inside another span? -/
  child : Bool := false
  attributes : List (Text × Attribute) := []
  status : Status := .unset
  /-- What was recorded on the way, by name. -/
  events : List Text := []
deriving DecidableEq, Repr

namespace Span

/-- Set an attribute, in place of an earlier one of the same name. -/
def set (s : Span) (key : Text) (v : Attribute) : Span :=
  { s with attributes := s.attributes.filter (fun p => p.1 != key) ++ [(key, v)] }

/-- End a span, with a fault if there was one. -/
def finish (s : Span) : Option Fault → Span
  | none => { s with status := .ok }
  | some f =>
    { s with
      status := .error f.text
      events := s.events ++ [Text.ofString "exception"] }.set "error.type" (.text f.kind.name)

end Span

end DetectorStream
