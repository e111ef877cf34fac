import DetectorStream.Number.Decimal

/-!
# What a broker is told about a message

Every message goes out with the same four headers: the run it belongs to, its format, its number
among the delivered messages and its content type. Headers that carry a trace context come after
them.

* `Label.headers`: the headers of a message.
-/

namespace DetectorStream.Delivery

/-- What all messages of a run have in common. -/
structure Label where
  runId : Text
  format : Text
  /-- The headers that carry the context of the current span, if there is one. -/
  trace : List (Text × Text) := []
deriving DecidableEq, Repr

namespace Label

/-- The content type of a format. -/
def contentType (format : Text) : Text :=
  if format == "json" then "application/json" else "application/x-flatbuffers"

/-- The headers of message number `seq`, in order. -/
def headers (l : Label) (seq : Nat) : List (Text × Text) :=
  [(Text.ofString "run-id", l.runId), (Text.ofString "format", l.format),
    (Text.ofString "seq", Decimal.ofNat seq),
    (Text.ofString "content-type", contentType l.format)] ++ l.trace

end Label

end DetectorStream.Delivery
