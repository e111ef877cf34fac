import DetectorStream.Files
import DetectorStream.Log.Style
import DetectorStream.Source.Locator

/-!
# Where entries go

An output is the standard output, the standard error, or a file given by a path or a locator, to
which lines are appended. Without outputs entries go to the standard error.

* `Log.Output.ofText`: the output of a setting.
* `Log.outputs`: all outputs of the settings; the files are created.
-/

namespace DetectorStream.Log

/-- Where lines go. -/
inductive Output
  | standard
  | errors
  /-- A file by its key, and the path under which it was opened. -/
  | file (key path : Text)
deriving DecidableEq, Repr

namespace Output

/-- The output of a path. -/
def ofPath (fs : Files) (path : Text) : Except Text (Output × Files) :=
  if path == "stdout" then .ok (.standard, fs)
  else if path == "stderr" then .ok (.errors, fs)
  else
    match fs.openToWrite path false with
    | .ok (key, fs) => .ok (.file key path, fs)
    | .error f => .error f.text

/-- What is wrong with a locator of a file, if anything. -/
def complaint? (u : Locator) : Option Text :=
  let (name, service) := (u.host.takeWhile (· != 0x3A), u.host.dropWhile (· != 0x3A))
  let got (what : String) : Option Text := some (Text.ofString what ++ ": got " ++ u.text)
  if u.user.isSome then got "user and password not allowed with file URLs"
  else if !u.fragment.isEmpty then got "fragments not allowed with file URLs"
  else if !u.query.isEmpty then got "query parameters not allowed with file URLs"
  else if 1 < service.length then got "ports not allowed with file URLs"
  else if !name.isEmpty && name != "localhost" then
    got "file URLs must leave host empty or use localhost"
  else none

/-- The output of a setting. -/
def ofText (fs : Files) (t : Text) : Except Text (Output × Files) :=
  if t.head? == some 0x2F then ofPath fs t
  else
    match Locator.parse t with
    | .error e => .error ("can't parse " ++ Text.quote t ++ " as a URL: " ++ e)
    | .ok u =>
      if !(u.scheme.isEmpty || u.scheme == "file") then
        .error ("no sink found for scheme " ++ Text.quote u.scheme)
      else
        match complaint? { u with scheme := "file" } with
        | some c => .error c
        | none => ofPath fs u.path

end Output

/-- The outputs of settings, the files with those created, and the complaints. -/
def openAll (fs : Files) : List Text → List Output × Files × List Text
  | [] => ([], fs, [])
  | t :: rest =>
    match Output.ofText fs t with
    | .ok (o, fs) =>
      let (os, fs, cs) := openAll fs rest
      (o :: os, fs, cs)
    | .error c =>
      let (os, fs, cs) := openAll fs rest
      (os, fs, ("open sink " ++ Text.quote t ++ ": " ++ c) :: cs)

/-- The outputs of settings. The files that could be opened are there even if others could not. -/
def outputs (fs : Files) (s : LogSettings) : Files × Except Fault (List Output) :=
  if s.outputPaths.isEmpty then (fs, .ok [.errors])
  else
    match openAll fs s.outputPaths with
    | (os, fs, []) => (fs, .ok os)
    | (_, fs, cs) => (fs, .error (.labelled "failed to build logger" (.told (Text.join "; " cs))))

/-- Write lines to the files among the outputs. A line that cannot be written is lost. -/
def writeFiles (fs : Files) (os : List Output) (lines : Text) : Files :=
  os.foldl (fun fs o =>
    match o with
    | .file key path => (fs.append key path lines).1
    | _ => fs) fs

end DetectorStream.Log
