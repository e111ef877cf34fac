import DetectorStream.CommandLine.Flag
import DetectorStream.CommandLine.Session
import DetectorStream.Compression.Codec

/-!
# Writing a synthetic source

The command `synth` writes events to a nev file, compressed as the suffix of its name says.

* `CommandLine.writeSourceBy`: write a batch to a path, with any codecs.
* `CommandLine.writeSource`: write a batch to a path.
* `CommandLine.synth`: the command.
-/

namespace DetectorStream.CommandLine

/-- The whole number given to a flag. -/
def numberOf (p : Flag.Parsed) (name : Text) (default : Int) : Int :=
  match p.get? name with
  | some (.whole n) => n
  | _ => default

/-- The parameters of a command line. -/
def synthParams (p : Flag.Parsed) : Synth.Params :=
  let d : Synth.Params := {}
  { events := Int64.ofInt (numberOf p "events" d.events.toInt)
    detectors := Int64.ofInt (numberOf p "detectors" d.detectors.toInt)
    seed := Int64.ofInt (numberOf p "seed" d.seed.toInt)
    period := Int32.ofInt (numberOf p "period" d.period.toInt) }

/-- Write a batch to a path, packed as the suffix of the path says. -/
def writeSourceBy (codecs : Algorithm → Codec) (fs : Files) (path : Text) (b : Batch) :
    Files × Option Fault :=
  match fs.openToWrite path true with
  | .error f =>
    (fs, some ((Fault.wrap .configuration "cannot create output file" f).withDetail
      "path" (.text path)))
  | .ok (key, fs) =>
    match Nev.write b with
    | .error f => (fs, some f)
    | .ok image => fs.append key path ((Codec.of codecs (Algorithm.ofPath path).1).pack image)

/-- Write a batch to a path. -/
def writeSource : Files → Text → Batch → Files × Option Fault := writeSourceBy Algorithm.codec

/-- Write a synthetic source. -/
def synth (p : Flag.Parsed) (s : Session) : Session × Option Stop :=
  match p.get? "output" with
  | some (.text path) =>
    match Synth.synthesize (synthParams p) .unlimited with
    | .error e => (s, some e)
    | .ok b =>
      match writeSource s.host.files path b with
      | (fs, some f) => (s.withFiles fs, some (.fault f))
      | (fs, none) =>
        ((s.withFiles fs).say (Text.ofString "wrote " ++ Decimal.ofNat b.size ++ " events to " ++ path
          ++ " (" ++ (Algorithm.ofPath path).1.name ++ ")\n"), none)
  | _ => (s, some (.fault (.told "required flag(s) \"output\" not set")))

end DetectorStream.CommandLine
