import DetectorStream.Files
import DetectorStream.Octets.Stream

/-!
# Mapped files

A file that is mapped into memory is read through a cursor or at an offset. Closing it ends all
reading.

* `MappedFile.ofContents`, `MappedFile.ofPath`: map a file, which must not be empty.
* `MappedFile.read`: read on from the cursor.
* `MappedFile.readAt`: read at an offset; the cursor stays.
* `MappedFile.close`, `MappedFile.closeReport`: unmap the file.
* `OpenFile.read`: read on in a file that is not mapped.
-/

namespace DetectorStream

/-- What stands in place of more octets. -/
def ended : Fault := .signal .endOfInput

/-! ## Files that are not mapped -/

/-- A file that is open to be read. -/
structure OpenFile where
  contents : Bytes
  /-- Where the next read starts. -/
  cursor : Nat := 0
deriving DecidableEq, Repr

/-- Read up to `n` octets. A read of nothing finds nothing, at the end as well. -/
def OpenFile.read : Reader OpenFile := fun p n =>
  let bs := (p.contents.drop p.cursor).take n
  ({ p with cursor := p.cursor + bs.length }, bs,
    if n ≠ 0 ∧ p.contents.length ≤ p.cursor then some ended else none)

/-! ## Mapped files -/

/-- A mapped file. -/
structure MappedFile where
  contents : Bytes
  /-- Where the next read starts. -/
  cursor : Nat := 0
  closed : Bool := false
deriving DecidableEq, Repr

namespace MappedFile

/-- The fault of using a file that is closed. -/
def alreadyClosed : Fault := .told "file already closed"

/-- The fault of an offset before the start of a file. -/
def negativeOffset : Fault := .told "bytes.Reader.ReadAt: negative offset"

/-- Map octets. There is no mapping of none. -/
def ofContents (bs : Bytes) : Except Fault MappedFile :=
  if bs.isEmpty then .error (.told "file is empty") else .ok { contents := bs }

/-- Map a file. A device has no size. -/
def ofPath (fs : Files) (path : Text) : Except Fault MappedFile :=
  match fs.node path with
  | .error e => .error (e.fault "open" path)
  | .ok (.file bs) => ofContents bs
  | .ok .directory => .error (.labelled "failed to mmap file" (.told Errno.noDevice.text))
  | .ok _ => ofContents []

/-- The mapped octets; none once the file is closed. -/
def mapped (m : MappedFile) : Bytes := if m.closed then [] else m.contents

/-- The mapped size. -/
def size (m : MappedFile) : Nat := m.mapped.length

/-- Read up to `n` octets from the cursor on. At the end there are none, however few are asked
for. -/
def read : Reader MappedFile := fun m n =>
  if m.closed then (m, [], some alreadyClosed)
  else if m.contents.length ≤ m.cursor then (m, [], some ended)
  else
    let bs := (m.contents.drop m.cursor).take n
    ({ m with cursor := m.cursor + bs.length }, bs, none)

/-- Read up to `n` octets at an offset. Fewer than asked for come with the end of the file. -/
def readAt (m : MappedFile) (n : Nat) (offset : Int) : Bytes × Option Fault :=
  if m.closed then ([], some alreadyClosed)
  else if offset < 0 then ([], some negativeOffset)
  else if m.contents.length ≤ offset.toNat then ([], some ended)
  else
    let bs := (m.contents.drop offset.toNat).take n
    (bs, if bs.length < n then some ended else none)

/-- Unmap the file. Closing it again changes nothing. -/
def close (m : MappedFile) : MappedFile := { m with closed := true }

/-- What closing tells: the first complaint of the system, about the mapping or about the file. A
file that is closed is left alone. -/
def closeReport (m : MappedFile) (unmapped shut : Option Fault) : Option Fault :=
  if m.closed then none else unmapped <|> shut

end MappedFile

end DetectorStream
