import DetectorStream.Delivery.Frame
import DetectorStream.Delivery.Transmitter
import DetectorStream.Files

/-!
# Delivery to files

The topic of a message is the path of a file, to which the message is appended as a frame; the topic
`-` is the standard output. A file is opened when it is first written to and stays open until the
sink is closed.

* `FileSink.send`: append a message.
* `FileSink.close`: close all files.
-/

namespace DetectorStream.Delivery

/-- The files that are written to. -/
structure FileSink where
  files : Files
  /-- The open files: the path under which each was opened, and its key. -/
  opened : List (Text × Text) := []
  /-- What has been written to the standard output. -/
  output : Bytes := []

namespace FileSink

/-- The topic that stands for the standard output. -/
def standardOutput : Text := "-"

/-- A failure to write to a path. -/
def failed (message path : Text) (f : Fault) : Fault :=
  (Fault.transmission false message (some f)).withDetail "path" (.text path)

/-- The key of a path, which is opened if it is not open yet. -/
def ensureOpen (s : FileSink) (path : Text) : Except Fault (Text × FileSink) :=
  match s.opened.lookup path with
  | some key => .ok (key, s)
  | none =>
    match s.files.openToWrite path false with
    | .error f => .error (failed "failed to open output file" path f)
    | .ok (key, fs) => .ok (key, { s with files := fs, opened := (path, key) :: s.opened })

/-- Write the header of a frame and then its message to an open file. -/
def writeFrame (s : FileSink) (key path : Text) (message : Bytes) : FileSink × Option Fault :=
  match s.files.append key path (Frame.header message) with
  | (fs, some f) => ({ s with files := fs }, some (failed "failed to write frame header" path f))
  | (fs, none) =>
    match fs.append key path message with
    | (fs, some f) => ({ s with files := fs }, some (failed "failed to write frame" path f))
    | (fs, none) => ({ s with files := fs }, none)

/-- Append a message to the file of a path. -/
def write (s : FileSink) (path : Text) (message : Bytes) : FileSink × Option Fault :=
  if path == standardOutput then ({ s with output := s.output ++ Frame.encode message }, none)
  else
    match s.ensureOpen path with
    | .error f => (s, some f)
    | .ok (key, s) => s.writeFrame key path message

/-- Send a message to a path. -/
def send : Transmitter FileSink := fun ctx path message s =>
  match cancelled? ctx with
  | some f => ⟨s, ctx, some f, []⟩
  | none =>
    let (s, fault) := s.write path message
    ⟨s, ctx, fault, []⟩

/-- Close all files. -/
def close (s : FileSink) : FileSink := { s with opened := [] }

end FileSink

end DetectorStream.Delivery
