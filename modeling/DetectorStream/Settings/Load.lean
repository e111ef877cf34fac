import DetectorStream.Files
import DetectorStream.Number.Binary64
import DetectorStream.Settings.Document
import DetectorStream.Settings.Substitution
import DetectorStream.Yaml.Reader

/-!
# Settings files

A settings file is a document with the keys of the fields; what it does not name keeps its standard
value. The types are strict: a number is not taken from a quoted text, and a duration is always a
text. A key without a field is passed over.

* `Settings.expanded`: the contents of a settings file, references to the environment replaced.
* `Settings.load`: the settings of a file.
* `Settings.save`: write the settings to a file.
-/

namespace DetectorStream

namespace Settings

open Yaml (Meaning)

/-- Put what a scalar stands for into a field. Nothing leaves a field alone, but empties a list. -/
def ofScalar (s : Settings) (slot : Slot) (spelling : Text) (m : Meaning) : Option Settings :=
  match slot, m with
  | .texts l _, .null => some (l.set [] s)
  | _, .null => some s
  | .text l, .text t => some (l.set t s)
  | .text l, _ => some (l.set spelling s)
  | .word l, .whole n => if n < 0x8000000000000000 then some (l.set (Int64.ofInt n) s) else none
  | .word l, .real f => if f ≤ 9223372036854775808 then some (l.set (Binary64.toWord f) s) else none
  | .shortWord l, .whole n =>
    if -(0x80000000) ≤ n && n < 0x80000000 then some (l.set (Int32.ofInt n) s) else none
  | .shortWord l, .real f =>
    let n := (Binary64.toWord f).toInt
    if f ≤ 9223372036854775808 && -0x80000000 ≤ n && n < 0x80000000 then
      some (l.set (Int32.ofInt n) s)
    else none
  | .flag l, .flag b => some (l.set b s)
  | .flag l, .text t =>
    if t == "y" || t == "Y" || t == "yes" || t == "on" then some (l.set true s)
    else if t == "n" || t == "N" || t == "no" || t == "off" then some (l.set false s)
    else none
  | .number l, .whole n => some (l.set (Binary64.ofInt n) s)
  | .number l, .real f => some (l.set f s)
  | .duration l, .text t => (Duration.parse t).toOption.map fun d => l.set d s
  | _, _ => none

/-- The text of an item of a list; nothing is left out. -/
def itemText (n : Yaml.Node) : Option (Option Text) :=
  match n.strip with
  | .scalar tag text => (Yaml.Node.meaning tag text).map fun
    | .null => none
    | .text t => some t
    | _ => some text
  | _ => none

/-- Put a node into a field. -/
def ofNode (s : Settings) (slot : Slot) (n : Yaml.Node) : Option Settings :=
  match n.strip with
  | .scalar tag text => (Yaml.Node.meaning tag text).bind (s.ofScalar slot text)
  | .sequence items =>
    match slot with
    | .texts l _ => (items.mapM itemText).map fun ts => l.set (ts.filterMap id) s
    | _ => none
  | _ => none

/-- Put the entries of a section into its fields. -/
def ofGroup (s : Settings) (group : String) (n : Yaml.Node) : Option Settings :=
  match n.strip with
  | .scalar tag text =>
    match Yaml.Node.meaning tag text with
    | some .null => some s
    | _ => none
  | .mapping es => do
    let es ← Yaml.Node.flatten es
    es.foldlM (fun s (name, v) =>
      match Field.all.find? fun f => f.group == group && Text.ofString f.name == name with
      | some f => s.ofNode f.slot v
      | none => some s) s
  | _ => none

/-- Put a document into the settings. -/
def ofDocument (s : Settings) (n : Yaml.Node) : Option Settings :=
  match n.strip with
  | .mapping es => do
    let es ← Yaml.Node.flatten es
    es.foldlM (fun s (name, v) =>
      match Field.groups.find? fun g => Text.ofString g == name with
      | some g => s.ofGroup g v
      | none =>
        match Field.all.find? fun f => f.group.isEmpty && Text.ofString f.name == name with
        | some f => s.ofNode f.slot v
        | none => some s) s
  | _ => s.ofGroup "" n

/-- The settings of a text, over the standard ones. -/
def parse (t : Text) : Except Fault Settings :=
  let read := (Yaml.Node.parse t).bind fun
    | none => some standard
    | some n => standard.ofDocument n
  match read with
  | some s => .ok s
  | none => .error (.labelled "failed to parse YAML" .withheld)

/-- The contents of a settings file, references to the environment replaced. -/
def expanded (fs : Files) (env : Environment) (path : Text) : Except Fault Text :=
  match fs.read path with
  | .ok t => .ok (env.substitute t)
  | .error f => .error (.labelled "failed to read config file" f)

/-- The settings of a file. -/
def load (fs : Files) (env : Environment) (path : Text) : Except Fault Settings := do
  parse (← expanded fs env path)

/-- Write the settings to a file. -/
def save (s : Settings) (fs : Files) (path : Text) : Files × Option Fault :=
  let (fs, f) := fs.write path s.document
  (fs, f.map (.labelled "failed to write config file"))

end Settings

end DetectorStream
