import DetectorStream.CommandLine.Help
import DetectorStream.CommandLine.Stream
import DetectorStream.CommandLine.Synthesize
import DetectorStream.Settings.EnvironmentFile

/-!
# The program

A command line is one command with its flags and words. The program itself reads the file `.env`
first and turns the end of its command into an exit status.

* `CommandLine.execute`: one command line in a session.
* `CommandLine.wordPaths`, `CommandLine.settingsPaths`: the paths that a command line can touch.
* `CommandLine.program`: the program.
-/

namespace DetectorStream.CommandLine

/-- The text given to a flag. -/
def textOf (p : Flag.Parsed) (name : Text) : Text :=
  match p.get? name with
  | some (.text t) => t
  | _ => []

/-- Does a command line ask for an explanation, or leave nothing else to do? -/
def wantsHelp (c : Command) (p : Flag.Parsed) : Bool :=
  (match p.get? "help" with
    | some (.flag b) => b
    | _ => false) || c = .root || c = .completion

/-- Explain the command that the words name. -/
def explain (topic : List Text) (s : Session) : Session :=
  match Command.find topic with
  | .ok (c, _) => s.say c.explanation
  | .error _ =>
    let names := Text.join " " (topic.map fun t => Text.ofString "\x60" ++ t ++ "\x60")
    s.say (Text.ofString "Unknown help topic [" ++ names ++ "]\n" ++ Command.root.usage)

/-- What a command does. -/
def action (c : Command) (p : Flag.Parsed) : Session → Session × Option Stop :=
  match c with
  | .version => fun s => (s.say (Text.ofString "neventgen v" ++ programVersion ++ "\n"), none)
  | .run => run p
  | .encode => encode p
  | .synth => synth p
  | _ => fun s => (explain p.rest s, none)

/-- One command line in a session. -/
def execute (args : List Text) (s : Session) : Session × Option Stop :=
  match Command.find args with
  | .error f => (s, some (.fault f))
  | .ok (c, args) =>
    match Flag.parse c.flags args with
    | .error e => (s, some (.fault (.told e.message)))
    | .ok p =>
      if wantsHelp c p then (s.say c.explanation, none)
      else profile (textOf p "cpuprofile") (textOf p "memprofile") (action c p) s

/-- What the program leaves: its exit status, its files and its outputs. -/
structure Exit where
  status : Nat
  files : Files
  standardOutput : Bytes
  standardError : Bytes

/-- The environment of the program, with the variables of the file `.env` that it does not have
yet. -/
def environmentOf (h : Host) : Environment :=
  match h.files.read ".env" with
  | .ok t => EnvironmentFile.extend h.environment t
  | .error _ => h.environment

/-! ## Which paths a command line can touch -/

/-- The paths that the words of a command line can name: the words themselves and the values behind
an equals sign or a letter. -/
def wordPaths (args : List Text) : List Text :=
  Text.ofString ".env" :: args.flatMap fun w => [w, w.drop 2, (w.dropWhile (· != 0x3D)).drop 1]

/-- The path of a source identifier, without the query. -/
def sourcePath (t : Text) : Text :=
  match Locator.ofIdentifier t with
  | .ok u => u.path
  | .error _ => t

/-- The paths that the settings of a command line name, as far as its configuration file is known. -/
def settingsPaths (args : List Text) (h : Host) : List Text :=
  match Command.find args with
  | .error _ => []
  | .ok (c, args) =>
    match Flag.parse c.flags args with
    | .error _ => []
    | .ok p =>
      match settingsOf { host := { h with environment := environmentOf h } } p with
      | .error _ => []
      | .ok cfg =>
        [cfg.source, sourcePath cfg.source, cfg.transport.topic] ++ cfg.log.outputPaths

/-! ## The program -/

/-- The program with its arguments. -/
def program (args : List Text) (h : Host) : Exit :=
  let (s, stop) := execute args { host := { h with environment := environmentOf h } }
  let (status, complaint) : Nat × Text := match stop with
    | none => (0, [])
    | some (.fault f) => (255, Text.ofString "Error: " ++ f.text ++ "\n")
    | some .crash => (2, [])
  { status := status
    files := s.host.files
    standardOutput := s.out ++ s.data
    standardError := s.err ++ s.log ++ complaint }

end DetectorStream.CommandLine
