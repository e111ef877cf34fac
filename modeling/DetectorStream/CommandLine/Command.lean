import DetectorStream.Fault.Basic
import DetectorStream.Settings.Flags
import DetectorStream.Source.Synth
import DetectorStream.Text.Case

/-!
# Commands

A command line names a command among its words; the words in front of the name may be flags that all
commands share. To find the name, a flag that needs a value takes the word after it along.

* `Command.find`: the command of a line and the words that are left to it.
* `Command.suggestions`: the commands whose names are close to a word.
-/

namespace DetectorStream.CommandLine

/-- What the program can do. -/
inductive Command
  /-- The program itself, when no command is named. -/
  | root
  | version
  | run
  | encode
  | synth
  | help
  | completion
deriving DecidableEq, Repr

/-- The name of the program. -/
def programName : String := "neventgen"

/-- The version of the program. -/
def programVersion : String := "0.1.0"

namespace Command

/-- The name of a command. -/
def name : Command → String
  | root => programName
  | version => "version"
  | run => "run"
  | encode => "encode"
  | synth => "synth"
  | help => "help"
  | completion => "completion"

/-- The commands that can be named. -/
def all : List Command := [version, run, encode, synth, help, completion]

/-- The flags that all commands share. -/
def sharedFlags : List Flag :=
  [{ name := "cpuprofile", type := .text, purpose := "Write a CPU profile to file" },
    { name := "memprofile", type := .text, purpose := "Write a heap profile to file on exit" }]

/-- The flag that names a configuration file. -/
def configFlag : Flag :=
  { name := "config"
    letter := some 0x63
    type := .text
    purpose := "Path to a YAML configuration file" }

/-- The flag that asks for an explanation. -/
def helpFlag (c : Command) : Flag :=
  { name := "help"
    letter := some 0x68
    type := .flag
    purpose := Text.ofString "help for " ++ c.name
    standard := .flag false }

/-- The flag that has the frames decoded again. -/
def verifyFlag : Flag :=
  { name := "verify"
    type := .flag
    purpose := "Decode the written frames and compare them with the run report"
    standard := .flag false }

/-- The flags of `synth`. -/
def synthFlags : List Flag :=
  let d : Synth.Params := {}
  [{ name := "events"
     type := .whole 64
     purpose := "Number of events"
     standard := .whole d.events.toInt },
   { name := "detectors"
     type := .whole 64
     purpose := "Detector IDs are drawn from [1, detectors]"
     standard := .whole d.detectors.toInt },
   { name := "seed", type := .whole 64, purpose := "Random seed", standard := .whole d.seed.toInt },
   { name := "period"
     type := .whole 32
     purpose := "Time-of-flight period"
     standard := .whole d.period.toInt },
   { name := "output", letter := some 0x6F, type := .text, purpose := "Output path (required)" },
   { name := "level"
     type := .whole 64
     purpose := "Compression level (1 fastest to 9 best)"
     standard := .whole 5 }]

/-- The flags of a command itself. -/
def ownFlags (c : Command) : List Flag :=
  c.helpFlag :: match c with
    | run => configFlag :: Settings.flags
    | encode => configFlag :: verifyFlag :: Settings.flags
    | synth => synthFlags
    | _ => []

/-- The flags of a command. -/
def flags (c : Command) : List Flag := c.ownFlags ++ sharedFlags

/-! ## Finding the command -/

/-- Does a word take the next one along as its value? A flag that is not known does. -/
def takesNext (flags : List Flag) (w : Text) : Bool :=
  if w.elem 0x3D then false
  else if Text.startsWith "--" w then
    !(flags.find? fun f => f.name == w.drop 2).any fun f => f.implied?.isSome
  else
    match w with
    | [0x2D, c] => !(flags.find? fun f => f.letter == some c).any fun f => f.implied?.isSome
    | _ => false

/-- The words of a line that are neither flags nor their values. -/
def words (flags : List Flag) : List Text → List Text
  | [] => []
  | w :: rest =>
    if w == "--" then []
    else if takesNext flags w then
      match rest with
      | [] => []
      | [_] => []
      | _ :: rest => words flags rest
    else if w.isEmpty || w.head? == some 0x2D then words flags rest
    else w :: words flags rest

/-- The line without the first word `x` that is neither a flag nor its value. -/
def dropFirst (flags : List Flag) (x : Text) : List Text → List Text
  | [] => []
  | w :: rest =>
    if w == "--" then w :: rest
    else if takesNext flags w then
      match rest with
      | [] => [w]
      | v :: rest => w :: v :: dropFirst flags x rest
    else if w == x then rest
    else w :: dropFirst flags x rest

/-! ## Suggestions -/

/-- One row of the table of distances: from the row above, for the octet `a`. `left` is the entry to
the left and `corner` the one above it. -/
def distanceRow (a : UInt8) : (left corner : Nat) → Text → List Nat → List Nat
  | left, corner, b :: t, up :: above =>
    let here := if a == b then corner else min (min left up) corner + 1
    here :: distanceRow a here up t above
  | _, _, _, _ => []

/-- How many octets must be added, dropped or changed to turn one text into the other. -/
def distance (s t : Text) : Nat :=
  let first := List.range (t.length + 1)
  let last := s.foldl (fun above a =>
    match above with
    | corner :: up => (corner + 1) :: distanceRow a (corner + 1) corner t up
    | [] => []) first
  last.getLast?.getD 0

/-- Is a name close to a word: at most two changes away, or begun by it? -/
def isClose (w name : Text) : Bool :=
  let w := Text.toLower w
  distance w name ≤ 2 || Text.startsWith w name

/-- The commands whose names are close to a word. -/
def suggestions (w : Text) : List Text :=
  ((all.filter (· != help)).map fun c => Text.ofString c.name).filter (isClose w)

/-- The complaint about a word that names no command. -/
def unknown (w : Text) : Fault :=
  let close := suggestions w
  let hint : Text :=
    if close.isEmpty then []
    else Text.ofString "\n\nDid you mean this?\n"
      ++ close.flatMap fun s => (Text.ofString "\t" ++ s ++ "\n" : Text)
  .told (Text.ofString "unknown command " ++ Text.quote w ++ " for " ++ Text.quote root.name ++ hint)

/-- The command of a line and the words that are left to it. -/
def find (args : List Text) : Except Fault (Command × List Text) :=
  match words sharedFlags args with
  | [] => .ok (root, args)
  | w :: _ =>
    match all.find? fun c => w == Text.ofString c.name with
    | some c => .ok (c, dropFirst sharedFlags w args)
    | none => .error (unknown w)

end Command

end DetectorStream.CommandLine
