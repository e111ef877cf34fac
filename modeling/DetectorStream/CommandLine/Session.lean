import DetectorStream.Delivery.Connect
import DetectorStream.Log.Outputs
import DetectorStream.Source.Load
import DetectorStream.Flow.Controller
import DetectorStream.Settings.Substitution

/-!
# Sessions

A session is what a command works in: the host with its files, its environment and its clock, and
what the command has said so far.

* `CommandLine.Host`: where commands run.
* `CommandLine.Session`: a host, and what was written to its outputs.
* `CommandLine.profile`: profiles around a command.
-/

namespace DetectorStream.CommandLine

/-- Where commands run. -/
structure Host where
  files : Files
  environment : Environment := []
  clock : Clock := { now := 0, step := 1000 }
  /-- How much memory there is. -/
  memory : Allocator := .unlimited
  /-- Where sources come from that are not files. -/
  origins : Source.Origins := {}
  /-- What the network answers. -/
  reach : Delivery.Reach := {}
  /-- What a broker answers to the `n`-th record. -/
  produce : Nat → Option Fault := fun _ => none
  /-- The name of the next run. -/
  runId : Text := []
  stamp : Log.Stamp := ⟨[], []⟩
  /-- Is a processor profile being taken? There is one profiler for all commands. -/
  profiling : Bool := false

/-- A host, and what a command has written. -/
structure Session where
  host : Host
  /-- What the command says. -/
  out : Text := []
  /-- What the command says about itself. -/
  err : Text := []
  /-- The data that the command writes to the standard output. -/
  data : Bytes := []
  /-- The log lines on the standard error. -/
  log : Text := []

namespace Session

/-- Say something. -/
def say (s : Session) (t : Text) : Session := { s with out := s.out ++ t }

/-- Say something aside. -/
def remark (s : Session) (t : Text) : Session := { s with err := s.err ++ t }

/-- The session with other files. -/
def withFiles (s : Session) (fs : Files) : Session := { s with host := { s.host with files := fs } }

/-- Write log lines to their outputs. -/
def record (s : Session) (outputs : List Log.Output) (lines : Text) : Session :=
  let s := s.withFiles (Log.writeFiles s.host.files outputs lines)
  outputs.foldl (fun s o =>
    match o with
    | .standard => { s with data := s.data ++ lines }
    | .errors => { s with log := s.log ++ lines }
    | .file _ _ => s) s

end Session

/-! ## Profiles -/

/-- What stands in for the contents of a profile. -/
def profileContents : Bytes := [0x1F, 0x8B]

/-- A failure around a profile. -/
def profileFault (what : String) (f : Fault) : Stop := .fault (.labelled what f)

/-- Begin to take a processor profile, if a path is given. -/
def startProfile (path : Text) (s : Session) : Session × Option Stop :=
  if path.isEmpty then (s, none)
  else
    match s.host.files.openToWrite path true with
    | .error f => (s, some (profileFault "failed to create CPU profile" f))
    | .ok (_, fs) =>
      let s := s.withFiles fs
      if s.host.profiling then
        (s, some (profileFault "failed to start CPU profile" (.told "cpu profiling already in use")))
      else ({ s with host := { s.host with profiling := true } }, none)

/-- Finish the processor profile, if one was begun. What cannot be written is lost. -/
def finishProfile (path : Text) (s : Session) : Session :=
  if path.isEmpty then s
  else
    { s with
      host :=
        { s.host with
          profiling := false
          files := (s.host.files.write path profileContents).1 } }

/-- Write a profile of the memory, if a path is given. -/
def writeMemoryProfile (path : Text) (s : Session) : Session × Option Stop :=
  if path.isEmpty then (s, none)
  else
    match s.host.files.openToWrite path true with
    | .error f => (s, some (profileFault "failed to create memory profile" f))
    | .ok (key, fs) =>
      match fs.append key path profileContents with
      | (fs, some f) => (s.withFiles fs, some (profileFault "failed to write memory profile" f))
      | (fs, none) => (s.withFiles fs, none)

/-- Run a command between the beginning and the end of its profiles. A command that fails leaves the
profiler running. -/
def profile (cpu memory : Text) (command : Session → Session × Option Stop) (s : Session) :
    Session × Option Stop :=
  match startProfile cpu s with
  | (s, some e) => (s, some e)
  | (s, none) =>
    match command s with
    | (s, some e) => (s, some e)
    | (s, none) => writeMemoryProfile memory (finishProfile cpu s)

end DetectorStream.CommandLine
