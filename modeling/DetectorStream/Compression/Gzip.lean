import DetectorStream.Compression.Checksum
import DetectorStream.Compression.Deflate
import DetectorStream.Octets.Stream

/-!
# Gzip

A gzip file is a run of members. A member is a header, a deflated text, the check of the text and
its length. The file ends where a member could start; if it breaks off there, so does the text.

* `Gzip.expand`: the stream of a file, if its first header can be read.
* `Gzip.write`: a file of one member.
-/

namespace DetectorStream.Gzip

/-! ## Headers -/

/-- Past a text that ends in a zero octet, which must be short. -/
def skipText (bs : Bytes) : Option Bytes :=
  let t := bs.takeWhile (· != 0)
  if 512 ≤ t.length then none
  else
    match bs.drop t.length with
    | _ :: rest => some rest
    | [] => none

/-- Past `n` octets. -/
def skip (n : Nat) (bs : Bytes) : Option Bytes := if bs.length < n then none else some (bs.drop n)

/-- Past the parts of a header that its flags announce. -/
def skipParts (flags : Nat) (all bs : Bytes) : Option Bytes := do
  let bs ← if flags / 4 % 2 == 0 then some bs else do
    let rest ← skip 2 bs
    skip (LittleEndian.get (bs.take 2)) rest
  let bs ← if flags / 8 % 2 == 0 then some bs else skipText bs
  let bs ← if flags / 16 % 2 == 0 then some bs else skipText bs
  if flags / 2 % 2 == 0 then some bs
  else do
    let rest ← skip 2 bs
    let head := all.take (all.length - bs.length)
    if LittleEndian.get (bs.take 2) == (Checksum.ieee head).toNat % 65536 then some rest else none

/-- Past the header of a member. -/
def header (bs : Bytes) : Option Bytes :=
  match bs with
  | 0x1F :: 0x8B :: 8 :: flags :: _ :: _ :: _ :: _ :: _ :: _ :: rest =>
    skipParts flags.toNat bs rest
  | _ => none

/-! ## Members -/

/-- Past the check and the length of a member. -/
def trailer (text bs : Bytes) : Option Bytes :=
  if bs.length < 8 then none
  else if LittleEndian.get (bs.take 4) ≠ (Checksum.ieee text).toNat then none
  else if LittleEndian.get ((bs.drop 4).take 4) ≠ text.length % 0x100000000 then none
  else some (bs.drop 8)

/-- Read members from after a header on, in a file that ends like this. Every member takes octets,
which bounds `fuel`. -/
def members (ending : Ending) : (fuel : Nat) → Bytes → Stream
  | 0, _ => .damaged [] true
  | fuel + 1, bs =>
    match Deflate.inflate bs with
    | (out, none) => .damaged out.toList true
    | (out, some rest) =>
      let text := out.toList
      match trailer text rest with
      | none => .damaged text true
      | some [] => { bytes := text, ending := ending, abrupt := ending != .clean }
      | some next =>
        match header next with
        | none => .damaged text true
        | some body =>
          let s := members ending fuel body
          { s with bytes := text ++ s.bytes }

/-- The stream of a file. -/
def expand (s : Stream) : Except Fault Stream :=
  match header s.bytes with
  | none => .error (Fault.wrap .malformedSource "invalid gzip stream" .withheld)
  | some body => .ok (members s.ending (s.bytes.length + 1) body)

/-! ## Writing -/

/-- A file of one member that stores the text. -/
def write (text : Bytes) : Bytes :=
  [0x1F, 0x8B, 8, 0, 0, 0, 0, 0, 0, 0xFF] ++ Deflate.store text
    ++ LittleEndian.put 4 (Checksum.ieee text).toNat ++ LittleEndian.put 4 text.length

end DetectorStream.Gzip
