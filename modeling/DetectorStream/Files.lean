import DetectorStream.Fault.Basic

/-!
# Files

A small file system: regular files and directories below the current directory, and two devices, one
that swallows what is written and one that is always full. A path is followed name by name, so every
name but the last must be a directory.

* `Files.node`: what a path leads to.
* `Files.read`: the contents of a file.
* `Files.openToWrite`, `Files.append`, `Files.truncate`: writing to a file.
* `Errno.message`: the wording of a failed operation.
-/

namespace DetectorStream

/-- Why an operation on a path fails. -/
inductive Errno
  | noEntry
  | notDirectory
  | isDirectory
  | invalid
  | nameTooLong
  | noSpace
  | noDevice
deriving DecidableEq, Repr

namespace Errno

/-- The wording of a reason. -/
def text : Errno → Text
  | noEntry => "no such file or directory"
  | notDirectory => "not a directory"
  | isDirectory => "is a directory"
  | invalid => "invalid argument"
  | nameTooLong => "file name too long"
  | noSpace => "no space left on device"
  | noDevice => "no such device"

/-- A failed operation on a path. -/
def fault (e : Errno) (operation path : Text) : Fault :=
  .told (operation ++ " " ++ path ++ ": " ++ e.text)

end Errno

/-- What a path leads to. -/
inductive Node
  | file (contents : Bytes)
  | directory
  /-- Swallows what is written, and is empty to read. -/
  | sink
  /-- Takes nothing but an empty write. -/
  | full
deriving DecidableEq, Repr

/-- Nodes by their path from the current directory, or from the root if it starts with a slash. -/
structure Files where
  nodes : List (Text × Node) := []
  /-- How many more octets the disk takes; none for as many as are written. -/
  room : Option Nat := none
deriving DecidableEq, Repr

namespace Files

/-- The devices, which are always there. -/
def devices : List (Text × Node) := [("/dev/full", .full), ("/dev/null", .sink)]

/-- Nothing but the devices. -/
def empty : Files := {}

/-! ## Following paths -/

/-- What the names from the current directory, or from the root, lead to. -/
def at? (fs : Files) (rooted : Bool) (names : List Text) : Option Node :=
  let key := (if rooted then [0x2F] else []) ++ Text.join "/" names
  match (fs.nodes ++ devices).lookup key with
  | some n => some n
  | none =>
    if names.all (· == "..") || (fs.nodes ++ devices).any (fun p => Text.startsWith (key ++ "/") p.1)
    then some .directory
    else none

/-- Follow names from a place, given as the reversed names that lead to it. -/
def follow (fs : Files) (rooted : Bool) : (back : List Text) → List Text → Except Errno (List Text)
  | back, [] => .ok back.reverse
  | back, n :: rest =>
    match fs.at? rooted back.reverse with
    | none => .error .noEntry
    | some .directory =>
      if n.isEmpty || n == "." then follow fs rooted back rest
      else if n == ".." then
        match back with
        | [] => follow fs rooted (if rooted then [] else [n]) rest
        | b :: up => follow fs rooted (if b == ".." then n :: back else up) rest
      else if 255 < n.length then .error .nameTooLong
      else follow fs rooted (n :: back) rest
    | some _ => .error .notDirectory

/-- The key under which the node of a path is kept. -/
def key (fs : Files) (path : Text) : Except Errno Text :=
  let rooted := Text.startsWith [0x2F] path
  if path.isEmpty then .error .noEntry
  else if path.elem 0 then .error .invalid
  else if 4096 ≤ path.length then .error .nameTooLong
  else
    match fs.follow rooted [] (Text.split 0x2F path) with
    | .error e => .error e
    | .ok names => .ok ((if rooted then [0x2F] else []) ++ Text.join "/" names)

/-- The node of a key. -/
def get? (fs : Files) (key : Text) : Option Node :=
  let rooted := Text.startsWith [0x2F] key
  fs.at? rooted ((Text.split 0x2F key).filter fun n => !n.isEmpty)

/-- What a path leads to. -/
def node (fs : Files) (path : Text) : Except Errno Node :=
  match fs.key path with
  | .error e => .error e
  | .ok k =>
    match fs.get? k with
    | some n => .ok n
    | none => .error .noEntry

/-- Put a node under a key. -/
def put (fs : Files) (key : Text) (n : Node) : Files :=
  { fs with nodes := (key, n) :: fs.nodes.filter fun p => p.1 != key }

/-! ## Reading -/

/-- The contents of a file. -/
def read (fs : Files) (path : Text) : Except Fault Bytes :=
  match fs.node path with
  | .error e => .error (e.fault "open" path)
  | .ok (.file bs) => .ok bs
  | .ok .directory => .error (Errno.isDirectory.fault "read" path)
  | .ok _ => .ok []

/-! ## Writing -/

/-- Open a path for writing, creating the file if it is not there; `clear` empties one that is. -/
def openToWrite (fs : Files) (path : Text) (clear : Bool) : Except Fault (Text × Files) :=
  match fs.key path with
  | .error e => .error (e.fault "open" path)
  | .ok k =>
    match fs.get? k with
    | some .directory => .error (Errno.isDirectory.fault "open" path)
    | some (.file _) => .ok (k, if clear then fs.put k (.file []) else fs)
    | some _ => .ok (k, fs)
    | none =>
      if path.getLast? == some 0x2F then .error (Errno.isDirectory.fault "open" path)
      else .ok (k, fs.put k (.file []))

/-- The octets of a write that the disk still takes. -/
def accepted (fs : Files) (bs : Bytes) : Bytes :=
  match fs.room with
  | none => bs
  | some r => bs.take r

/-- Append octets to what a key leads to; `path` is for the wording. A disk that runs full keeps the
octets that it took before. -/
def append (fs : Files) (key path : Text) (bs : Bytes) : Files × Option Fault :=
  match fs.get? key with
  | some (.file old) =>
    let kept := fs.accepted bs
    ({ fs.put key (.file (old ++ kept)) with room := fs.room.map (· - kept.length) },
      if kept.length < bs.length then some (Errno.noSpace.fault "write" path) else none)
  | some .full => (fs, if bs.isEmpty then none else some (Errno.noSpace.fault "write" path))
  | _ => (fs, none)

/-- Replace the contents of a file. -/
def write (fs : Files) (path : Text) (bs : Bytes) : Files × Option Fault :=
  match fs.openToWrite path true with
  | .error f => (fs, some f)
  | .ok (k, fs) => fs.append k path bs

/-- Empty a file that is there. -/
def truncate (fs : Files) (path : Text) : Except Errno Files :=
  match fs.key path with
  | .error e => .error e
  | .ok k =>
    match fs.get? k with
    | none => .error .noEntry
    | some (.file _) => .ok (fs.put k (.file []))
    | some .directory => .error .isDirectory
    | some _ => .error .invalid

/-- Files from paths and contents; a path that ends in a slash is a directory. -/
def ofList (entries : List (Text × Bytes)) : Files where
  nodes := entries.map fun (p, bs) =>
    if p.getLast? == some 0x2F then (p.dropLast, .directory) else (p, .file bs)

end Files

end DetectorStream
