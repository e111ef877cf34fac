import DetectorStream.Settings.Flags
import DetectorStream.Settings.Load
import DetectorStream.Text.Case

/-!
# Settings from several places

A field is given by its flag, or else by its variable, or else by the file, or else it keeps its
standard value. The variable of a field is its key in upper case with underscores for points, after
a common first word; one that is empty does not count, and one with the name of a section hides what
the file says about that section. Keys of the file count in any case, and may be written with points.

Types are lenient here: texts are read as numbers and truth values, numbers stand for durations in
nanoseconds, a text becomes a list at its commas, and what does not fit a word wraps.

* `Settings.lookup`: what is given for a field, and by whom.
* `Settings.decode`: what a field holds for which a value is given.
* `Settings.resolve`: the settings from all places.
-/

namespace DetectorStream.Settings

open Yaml (Value Meaning)

/-- The first word of the variables that give fields. -/
def variableStem : Text := "NEVENTGEN_"

/-- The variable that gives a key. -/
def variable_ (key : Text) : Text :=
  variableStem ++ (Text.toUpperAscii key).map fun b => if b == 0x2E then 0x5F else b

/-- The value of a variable that is set and not empty. -/
def nonempty? (env : Environment) (name : Text) : Option Text :=
  (env.lookup name).filter fun v => !v.isEmpty

/-- A text as it is read in a record: a carriage return before a line feed is dropped. -/
def lineFed : Text → Text
  | 0x0D :: 0x0A :: t => 0x0A :: lineFed t
  | b :: t => b :: lineFed t
  | [] => []

/-- A value given on the command line. A list is handed on as a record, so that a list of one empty
text counts as empty. -/
def ofFlag : Flag.Value → Value
  | .text t => .scalar (.text t)
  | .whole n => .scalar (.whole n)
  | .flag b => .scalar (.flag b)
  | .real f => .scalar (.text (FloatStyle.general.render f))
  | .duration d => .scalar (.text (Duration.text d))
  | .texts ts => .list (if ts == [[]] then [] else ts.map fun t => .scalar (.text (lineFed t)))

/-! ## The file -/

/-- A document with its keys in lower case. Entries whose keys were in lower case before come last, so
that the others count where both are there. -/
def lowered (es : List (Text × Value)) : List (Text × Value) :=
  (es.filter fun e => Text.toLower e.1 != e.1).map (fun e => (Text.toLower e.1, e.2)) ++
    es.filter fun e => Text.toLower e.1 == e.1

/-- Is a value nothing? -/
def isNull : Value → Bool
  | .scalar .null => true
  | _ => false

/-- What the file says under a key without a point. -/
def top? (file : List (Text × Value)) (key : Text) : Option Value :=
  ((lowered file).lookup key).filter fun v => !isNull v

/-- What the file says about a field: under its key, or under its name in its section. -/
def inFile? (file : List (Text × Value)) (f : Field) : Option Value :=
  match top? file f.key with
  | some v => some v
  | none =>
    if f.group.isEmpty then none
    else
      match top? file f.group with
      | some (.map es) => top? es f.name
      | _ => none

/-- Does the file hold a value, or nothing, under the key of a field? -/
def isMentioned (file : List (Text × Value)) (f : Field) : Bool :=
  let leaf : Option Value → Bool
    | none => false
    | some (.map _) => false
    | some _ => true
  leaf ((lowered file).lookup f.key) ||
    match (lowered file).lookup (Text.ofString f.group) with
    | some (.map es) => !f.group.isEmpty && leaf ((lowered es).lookup (Text.ofString f.name))
    | _ => false

/-! ## One field -/

/-- What is given for a field. `bound` tells that the field has a flag; one that has none counts only
if the file mentions it. -/
def lookup (given : Option Flag.Value) (bound : Bool) (env : Environment) (file : List (Text × Value))
    (f : Field) : Option Value :=
  match given with
  | some v => some (ofFlag v)
  | none =>
    let fromFile :=
      if !f.group.isEmpty && (nonempty? env (variable_ f.group)).isSome then none
      else
        match inFile? file f with
        | some (.map []) => if bound then some (.map []) else none
        | v => v
    if bound || isMentioned file f then
      match nonempty? env (variable_ f.key) with
      | some v => some (.scalar (.text v))
      | none => fromFile
    else fromFile

/-! ## Decoding -/

/-- The text of a scalar that is to be a text. -/
def looseText? : Meaning → Option Text
  | .text t => some t
  | .flag b => some (if b then "1" else "0")
  | .whole n => some (Decimal.ofInt n)
  | .real f => some (FloatStyle.plain.render f)
  | _ => none

/-- The number of a scalar that is to be a word of `bits` bits, before it wraps. -/
def looseWord? (bits : Nat) : Meaning → Option Int
  | .whole n => some n
  | .real f => some (Binary64.toWord f).toInt
  | .flag b => some (if b then 1 else 0)
  | .text t => (Numeral.parseInt 0 bits (if t.isEmpty then "0" else t)).toOption
  | _ => none

/-- The truth value of a scalar that is to be one. -/
def looseFlag? : Meaning → Option Bool
  | .flag b => some b
  | .whole n => some (n != 0)
  | .real f => some (f != 0)
  | .text t => if t.isEmpty then some false else (Numeral.parseFlag t).toOption
  | _ => none

/-- The number of a scalar that is to be a floating-point number. -/
def looseNumber? : Meaning → Option Float
  | .whole n => some (Binary64.ofInt n)
  | .real f => some f
  | .flag b => some (if b then 1 else 0)
  | .text t => (FloatReader.parse (if t.isEmpty then "0" else t)).toOption
  | _ => none

/-- The duration of a scalar that is to be one; a number counts nanoseconds. -/
def looseDuration? : Meaning → Option Duration
  | .text t => (Duration.parse t).toOption
  | m => (looseWord? 64 m).map Int64.ofInt

/-- The text of an item that may be nothing. -/
def looseItem? : Value → Option (Option Text)
  | .scalar .null => some none
  | .scalar m => (looseText? m).map some
  | _ => none

/-- The items of what is to be a list. A text is cut at its commas, and any other scalar is a list
of its own. -/
def looseItems? : Value → Option (List (Option Text))
  | .scalar (.text t) => some (if t.isEmpty then [] else (Text.split 0x2C t).map some)
  | .scalar m => (looseText? m).map fun t => [some t]
  | .list items => items.mapM looseItem?
  | .map _ => none

/-- Items over those that were there before: an item that is nothing keeps the one before it, and
items that were there beyond the end stay. -/
def overlay : (old : List Text) → (new : List (Option Text)) → List Text
  | old, [] => old
  | [], t :: new => t.getD [] :: overlay [] new
  | o :: old, t :: new => t.getD o :: overlay old new

/-- What a field holds for which a scalar is given. -/
def ofLoose (m : Meaning) : (slot : Slot) → (old : slot.Content) → Option slot.Content
  | .text _, _ => looseText? m
  | .texts _ _, old => (looseItems? (.scalar m)).map (overlay old)
  | .word _, _ => (looseWord? 64 m).map Int64.ofInt
  | .shortWord _, _ => (looseWord? 32 m).map Int32.ofInt
  | .flag _, _ => looseFlag? m
  | .number _, _ => looseNumber? m
  | .duration _, _ => looseDuration? m

/-- What a field holds for which a value is given, and which held `old` before. Nothing leaves it
alone, a list is laid over the one before it, and an empty mapping stands for an empty list. -/
def decode (slot : Slot) (old : slot.Content) (v : Value) : Option slot.Content :=
  match v with
  | .scalar .null => some old
  | .scalar m => ofLoose m slot old
  | .list items =>
    match slot, old with
    | .texts _ _, old => (looseItems? (.list items)).map (overlay old)
    | _, _ => none
  | .map es =>
    match slot with
    | .texts _ _ => if es.isEmpty then some [] else none
    | _ => none

/-- Put what is given into a field. -/
def ofGiven (s : Settings) (slot : Slot) (v : Value) : Option Settings :=
  (decode slot (slot.lens.get s) v).map fun a => slot.lens.set a s

/-! ## All fields -/

/-- The document of a settings file; one that holds nothing is empty. -/
def fileDocument? (t : Text) : Option (List (Text × Value)) :=
  match Yaml.Node.parse t with
  | none => none
  | some none => some []
  | some (some n) =>
    match n.valueWithin true (t.length + 2) with
    | some (.map es) => some es
    | some (.scalar .null) => some []
    | _ => none

/-- Does a section of the file hold something that is no mapping? -/
def hasBadGroup (file : List (Text × Value)) : Bool :=
  Field.groups.any fun g =>
    match top? file g with
    | some (.map _) => false
    | some _ => true
    | none => false

/-- The flag bound to a field, by its name. -/
def flagOf? (f : Field) : Option Text :=
  (flagKeys.find? fun k => Text.ofString k.2.2.1 == f.key).map fun k => Text.ofString k.1

/-- The settings from the flags that were given, the environment and a file. `known` tells which
flags there are at all. -/
def merge (known : Text → Bool) (given : Text → Option Flag.Value) (env : Environment)
    (file : List (Text × Value)) : Option Settings :=
  if hasBadGroup file then none
  else
    Field.all.foldlM (fun s f =>
      let flag := (flagOf? f).filter known
      match lookup (flag.bind given) flag.isSome env file f with
      | some v => s.ofGiven f.slot v
      | none => some s) standard

/-- The document of the file at `path`, which is empty for none. -/
def documentAt (env : Environment) (fs : Files) (path : Text) :
    Except Fault (List (Text × Value)) :=
  if path.isEmpty then .ok []
  else
    match expanded fs env path with
    | .error f => .error (broken f.text)
    | .ok t =>
      match fileDocument? t with
      | some es => .ok es
      | none => .error (broken ("failed to parse config file " ++ path ++ ": " ++ Diagnostic.veil))

/-- The settings from the flags that were given, the environment and the file at `path`. -/
def resolve (known : Text → Bool) (given : Text → Option Flag.Value) (env : Environment) (fs : Files)
    (path : Text) : Except Fault Settings := do
  let file ← documentAt env fs path
  match merge known given env file with
  | some s => .ok s
  | none => .error (broken ("failed to decode configuration: " ++ Diagnostic.veil))

end DetectorStream.Settings
