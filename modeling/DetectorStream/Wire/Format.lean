import DetectorStream.Wire.Ev42
import DetectorStream.Wire.JsonMessage

/-!
# Message formats

* `Format.ofName`: the format of a name.
* `Format.encode`, `Format.decode`: messages to octets and back.
-/

namespace DetectorStream

/-- How messages are written. -/
inductive Format
  | ev42
  | json
deriving DecidableEq, Repr

namespace Format

/-- The name of a format. -/
def name : Format → Text
  | ev42 => Ev42.tag
  | json => JsonMessage.tag

/-- The format of a name. -/
def ofName (t : Text) : Except Fault Format :=
  if t == ev42.name then .ok ev42
  else if t == json.name then .ok json
  else .error (.report .configuration ("unknown wire format " ++ Text.quote t))

/-- Encode a message. -/
def encode : Format → Message → Except Fault Bytes
  | ev42 => Ev42.encode
  | json => JsonMessage.encode

/-- Decode a message. -/
def decode : Format → Bytes → Except Fault Message
  | ev42 => Ev42.decode
  | json => JsonMessage.decode

end Format

end DetectorStream
