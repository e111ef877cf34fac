import DetectorStream.CommandLine.Command
import DetectorStream.Number.Shortest

/-!
# Explanations

The explanation of a command says what it is for, how it is called, which commands stand under it
and which flags it takes. Flags stand in the order of their names, in two columns; a default is
shown unless it is the value that its type starts with.

* `Flag.table`: the two columns.
* `Command.usage`: how a command is called.
* `Command.explanation`: what a command is for, and how it is called.
-/

namespace DetectorStream

/-- The word that stands for a value in an explanation. -/
def FlagType.word : FlagType → String
  | text => "string"
  | whole bits => if bits = 32 then "int32" else "int"
  | flag => ""
  | real => "float"
  | duration => "duration"
  | texts => "strings"

namespace Flag

/-- The text of a value, unless it is the one that its type starts with. -/
def Value.shown? : Value → Option Text
  | text t => if t.isEmpty then none else some (Text.quote t)
  | whole n => if n = 0 then none else some (Decimal.ofInt n)
  | flag b => if b then some "true" else none
  | real f =>
    let t := FloatStyle.general.render f
    if t == "0" then none else some t
  | duration d => if d = 0 then none else some d.text
  | texts ts => if ts.isEmpty then none else some (Text.ofString "[" ++ Text.join "," ts ++ "]")

/-- The left column of a flag: its letter, its name and the word for its values. -/
def caption (f : Flag) : Text :=
  let letter : Text := match f.letter with
    | some b => Text.ofString "  -" ++ [b] ++ ", --"
    | none => "      --"
  let word : Text := if f.type.word.isEmpty then [] else Text.ofString " " ++ f.type.word
  letter ++ f.name ++ word

/-- The right column of a flag: what it is for, and its default. -/
def remark (f : Flag) : Text :=
  f.purpose ++ match f.standard.shown? with
    | some t => Text.ofString " (default " ++ t ++ ")"
    | none => []

/-- A text filled up with blanks on its right. -/
def fill (width : Nat) (t : Text) : Text := t ++ List.replicate (width - t.length) 0x20

/-- The flags in two columns, in the order of their names. -/
def table (flags : List Flag) : Text :=
  let flags := flags.mergeSort fun f g => Text.le f.name g.name
  let width := (flags.map fun f => f.caption.length).foldl max 0
  flags.flatMap fun f => fill width f.caption ++ Text.ofString "   " ++ f.remark ++ Text.ofString "\n"

end Flag

namespace CommandLine.Command

/-- What a command is for, in a line. -/
def purpose : Command → String
  | root => "neventgen - neutron detector event stream generator"
  | version => "Show version information"
  | run => "Stream events to a broker"
  | encode => "Encode events into length-prefixed wire messages without a broker"
  | synth => "Write a synthetic .nev source file"
  | help => "Help about any command"
  | completion => "Generate the autocompletion script for the specified shell"

/-- What a command does, at length, line by line. -/
def description : Command → List String
  | root =>
    ["neventgen loads raw neutron detector events from a file, an object store or a",
     "synthetic generator, optionally amplifies them, and streams them to a message",
     "broker as a paced sequence of self-describing wire messages."]
  | run =>
    ["Load the source events, amplify them and stream them to the configured",
     "transport. Settings come from flags, NEVENTGEN_* environment variables and an",
     "optional YAML file, in that order of precedence.",
     "",
     "Example:",
     "  neventgen run --source events.nev.zst --multiplier 4 --broker kafka:9092 --topic detector_events"]
  | encode =>
    ["Run the generator against the file transport. Messages are written as",
     "little-endian uint32 length prefixed frames to --topic, or to stdout when the",
     "topic is \"-\". With --verify every frame is decoded again and checked.",
     "",
     "Example:",
     "  neventgen encode --source synth://?events=100000 --topic frames.bin --verify"]
  | synth =>
    ["Generate a reproducible pseudo-random event sequence and write it in the .nev",
     "layout. A compression suffix on --output (.gz, .zst, .lz4, .s2, .snappy)",
     "compresses the file.",
     "",
     "Example:",
     "  neventgen synth --events 1000000 --seed 7 --output events.nev.zst"]
  | help =>
    ["Help provides help for any command in the application.",
     "Simply type neventgen help [path to command] for full details."]
  | completion =>
    ["Generate the autocompletion script for neventgen for the specified shell.",
     "See each sub-command's help for details on how to use the generated script."]
  | version => [version.purpose]

/-- The command with the program in front of it. -/
def path : Command → Text
  | root => programName
  | c => Text.ofString programName ++ " " ++ c.name

/-- The commands under a command with what they are for, in the order of their names. -/
def subcommands : Command → List (Text × Text)
  | root =>
    (all.map fun c => (Text.ofString c.name, Text.ofString c.purpose)).mergeSort fun c d =>
      Text.le c.1 d.1
  | completion =>
    ["bash", "fish", "powershell", "zsh"].map fun shell =>
      (Text.ofString shell, Text.ofString ("Generate the autocompletion script for " ++ shell))
  | _ => []

/-- How a command is called. -/
def usage (c : Command) : Text :=
  let line : Text :=
    if c.subcommands.isEmpty then
      c.path ++ (if c = help then Text.ofString " [command]" else []) ++ Text.ofString " [flags]"
    else c.path ++ Text.ofString " [command]"
  let commands : Text := c.subcommands.flatMap fun (name, purpose) =>
    Text.ofString "\n  " ++ Flag.fill 11 name ++ Text.ofString " " ++ purpose
  let available : Text :=
    if commands.isEmpty then [] else Text.ofString "\n\nAvailable Commands:" ++ commands
  let (own, inherited) : List Flag × List Flag :=
    if c = root then (c.flags, []) else (c.ownFlags, sharedFlags)
  let globals : Text :=
    if inherited.isEmpty then [] else Text.ofString "\nGlobal Flags:\n" ++ Flag.table inherited
  let more : Text :=
    if commands.isEmpty then []
    else Text.ofString "\nUse \"" ++ c.path ++ " [command] --help\" for more information about a command.\n"
  Text.ofString "Usage:\n  " ++ line ++ available ++ "\n\nFlags:\n" ++ Flag.table own ++ globals ++ more

/-- The explanation of a command: what it is for, and how it is called. -/
def explanation (c : Command) : Text :=
  Text.join "\n" (c.description.map Text.ofString) ++ "\n\n" ++ c.usage

end CommandLine.Command

end DetectorStream
