import DetectorStream.CommandLine.Program
import DetectorStream.Run.Id
import Std.Time.DateTime.Timestamp

/-!
# The executable

What `CommandLine.program` computes, done: the files that a command line can touch are read, the
program runs on them, and those that it changed are written back.
-/

namespace DetectorStream.CommandLine

/-- Read what is at a path, with the directories that lead to it, into the files. -/
def readPath (fs : Files) (path : Text) : IO Files := do
  let here ← IO.currentDir
  let names := Text.split 0x2F path
  let mut fs := fs
  for n in List.range names.length do
    let key := Text.join [0x2F] (names.take (n + 1))
    match Text.toString? key with
    | none => pure ()
    | some name =>
      let place := here / name
      if name.isEmpty || (fs.nodes.lookup key).isSome || (Files.devices.lookup key).isSome then
        pure ()
      else if ← place.isDir then
        fs := fs.put key .directory
      else
        try
          let contents ← IO.FS.readBinFile place
          fs := fs.put key (.file contents.data.toList)
        catch _ => pure ()
  return fs

/-- Write the files that differ from those that were read. -/
def writeBack (before after : Files) : IO Unit := do
  let here ← IO.currentDir
  for (key, node) in after.nodes do
    match node, Text.toString? key with
    | .file contents, some name =>
      if before.nodes.lookup key != some node then
        IO.FS.writeBinFile (here / name) ⟨contents.toArray⟩
    | _, _ => pure ()

/-- The variables of the process. -/
def readEnvironment : IO Environment := do
  let raw ← IO.FS.readBinFile "/proc/self/environ"
  let entries := (Text.split 0 raw.data.toList).filter fun e => e.elem 0x3D
  return entries.map fun e => (e.takeWhile (· != 0x3D), (e.dropWhile (· != 0x3D)).drop 1)

/-- Write octets to a stream. -/
def writeTo (stream : IO.FS.Stream) (bytes : Bytes) : IO Unit := do
  stream.write ⟨bytes.toArray⟩
  stream.flush

/-- The host that this process runs on, with the files that its arguments can touch. -/
def thisHost (args : List Text) : IO Host := do
  let now ← Std.Time.Timestamp.now
  let random ← IO.getRandomBytes 16
  let host : Host :=
    { files := ← (wordPaths args).foldlM readPath {}
      environment := ← readEnvironment
      clock := { now := now.toNanosecondsSinceUnixEpoch.val, step := 1000 }
      runId := RunId.ofRandom random.data.toList
      stamp := ⟨Decimal.ofInt now.toSecondsSinceUnixEpoch.val, programName⟩ }
  let files ← (settingsPaths args host).foldlM readPath host.files
  return { host with files := files }

end DetectorStream.CommandLine

open DetectorStream DetectorStream.CommandLine in
/-- Run the program with the arguments of the process. -/
def main (args : List String) : IO UInt32 := do
  let args := args.map Text.ofString
  let host ← thisHost args
  let exit := program args host
  writeBack host.files exit.files
  writeTo (← IO.getStdout) exit.standardOutput
  writeTo (← IO.getStderr) exit.standardError
  return exit.status.toUInt32
