import DetectorStream.Compression.Bits
import DetectorStream.Compression.Checksum
import DetectorStream.Octets.Stream

/-!
# Lz4 frames

A frame is a magic number, a descriptor, blocks of literals and matches, an end mark and a check of
the whole text. Frames to be skipped may come first; what follows the first real frame is not read.
Input that runs out between two parts counts as the end, not as damage, and the text then ends as the
file does.

* `Lz4.block?`: the text of one block, given the text before it.
* `Lz4.expand`: the stream of a file.
* `Lz4.write`: a frame of stored blocks.

Frames of the older layout have no descriptor, no end mark and no check; several of them in a row
count as one, and the size of the text so far may stand at their end.
-/

namespace DetectorStream.Lz4

/-! ## Blocks -/

/-- A length that goes on in further octets if its first four bits are all set. -/
def length? (n : Nat) : Bytes → Option (Nat × Bytes)
  | [] => if n == 15 then none else some (n, [])
  | bs => if n == 15 then more 15 bs else some (n, bs)
where
  /-- Add octets up to the first that is not full. -/
  more (n : Nat) : Bytes → Option (Nat × Bytes)
    | [] => none
    | b :: t => if b == 255 then more (n + 255) t else some (n + b.toNat, t)

/-- Read the sequences of a block onto the text before it, which is at most `limit` octets long
afterwards. The last sequence has no match. Every sequence takes an octet, which bounds `fuel`. -/
def sequences (limit : Nat) : (fuel : Nat) → Bytes → Array UInt8 → Option (Array UInt8)
  | 0, _, _ => none
  | _ + 1, [], _ => none
  | fuel + 1, token :: t, out =>
    match length? (token.toNat / 16) t with
    | none => none
    | some (n, t) =>
      let literals := t.take n
      let t := t.drop n
      let out := literals.foldl Array.push out
      if literals.length < n || limit < out.size then none
      else
        match t with
        | [] => some out
        | lo :: hi :: t =>
          let distance := LittleEndian.get [lo, hi]
          match length? (token.toNat % 16) t with
          | none => none
          | some (n, t) =>
            if distance == 0 || out.size < distance || limit < out.size + n + 4 then none
            else
              let out := copyBack distance (n + 4) out
              if t.isEmpty then some out else sequences limit fuel t out
        | [_] => none

/-- The text with that of a block added. -/
def block? (most : Nat) (bs : Bytes) (out : Array UInt8) : Option (Array UInt8) :=
  if bs.isEmpty then some out else sequences (out.size + most) (bs.length + 1) bs out

/-! ## Frames -/

/-- What a descriptor says. -/
structure Descriptor where
  blockChecks : Bool
  contentCheck : Bool
  linked : Bool
  blockMax : Nat
  /-- The frame has the older layout. -/
  legacy : Bool := false

/-- Read a descriptor: flags, the size of blocks, the size of the text if given, and a check. -/
def descriptor? (bs : Bytes) : Option (Descriptor × Bytes) :=
  match bs with
  | flags :: sizes :: t =>
    let f := flags.toNat
    let extra := (if f / 8 % 2 == 1 then 8 else 0)
    let code := sizes.toNat / 16 % 8
    let head := flags :: sizes :: t.take extra
    match t.drop extra with
    | check :: rest =>
      if f / 64 ≠ 1 || head.length < 2 + extra || code < 4
        || check.toNat ≠ (Checksum.xxh32 head).toNat / 256 % 256
      then none
      else some (⟨f / 16 % 2 == 1, f / 4 % 2 == 1, f / 32 % 2 == 0, Nat.pow 2 (8 + 2 * code), false⟩, rest)
    | [] => none
  | _ => none

/-- The end of a frame: the check of its text, if there is one. A missing check is not missed. Nothing
behind the frame is read. -/
def close (ending : Ending) (d : Descriptor) (out : Array UInt8) (bs : Bytes) : Stream :=
  let text := out.toList
  if !d.contentCheck then { bytes := text }
  else if bs.isEmpty then { bytes := text, ending := ending }
  else if 4 ≤ bs.length && LittleEndian.get (bs.take 4) == (Checksum.xxh32 text).toNat then
    { bytes := text }
  else .damaged text

/-- The magic number of a frame of the older layout. -/
def legacyMagic : Nat := 0x184C2102

/-- Read the blocks of a frame onto the text, in a file that ends like this. Every block takes octets,
which bounds `fuel`. -/
def blocks (ending : Ending) (d : Descriptor) : (fuel : Nat) → Bytes → Array UInt8 → Stream
  | 0, _, out => .damaged out.toList
  | fuel + 1, bs, out =>
    if bs.isEmpty then { bytes := out.toList, ending := ending }
    else if bs.length < 4 then .damaged out.toList
    else
      let word := LittleEndian.get (bs.take 4)
      let rest := bs.drop 4
      if d.legacy && word == legacyMagic then blocks ending d fuel rest out
      else if d.legacy && word == out.size then { bytes := out.toList }
      else if !d.legacy && word == 0 then close ending d out rest
      else
        let size := word % 0x80000000
        let body := rest.take size
        let rest := rest.drop size
        if d.blockMax < size then .damaged out.toList
        else if body.isEmpty && 0 < size then { bytes := out.toList, ending := ending }
        else if body.length < size then .damaged out.toList
        else if d.blockChecks && rest.isEmpty then { bytes := out.toList, ending := ending }
        else if d.blockChecks && (rest.length < 4
          || LittleEndian.get (rest.take 4) ≠ (Checksum.xxh32 body).toNat) then .damaged out.toList
        else
          let rest := if d.blockChecks then rest.drop 4 else rest
          let next :=
            if 0x80000000 ≤ word then some (body.foldl Array.push out)
            else if d.linked then block? d.blockMax body out
            else (block? d.blockMax body #[]).map (out ++ ·)
          match next with
          | none => .damaged out.toList
          | some out => blocks ending d fuel rest out

/-- The magic number of a frame. -/
def magic : Nat := 0x184D2204

/-- The stream of a file that ends like this. Every frame that is skipped takes octets, which bounds
`fuel`. -/
def expandFrom (ending : Ending) : (fuel : Nat) → Bytes → Stream
  | 0, _ => .damaged []
  | fuel + 1, bs =>
    if bs.isEmpty then { bytes := [], ending := ending }
    else if bs.length < 4 then .damaged []
    else
      let word := LittleEndian.get (bs.take 4)
      let rest := bs.drop 4
      if word / 16 == 0x184D2A5 then
        if rest.isEmpty then { bytes := [], ending := ending }
        else if rest.length < 4 then .damaged []
        else
          let size := LittleEndian.get (rest.take 4)
          expandFrom ending fuel ((rest.drop 4).drop size)
      else if word == legacyMagic then
        blocks ending ⟨false, false, false, 0x800000, true⟩ (rest.length + 1) rest #[]
      else if word ≠ magic then .damaged []
      else if rest.isEmpty || rest.length == 2 then { bytes := [], ending := ending }
      else
        match descriptor? rest with
        | none => .damaged []
        | some (d, rest) => blocks ending d (rest.length + 1) rest #[]

/-- The stream of a file. -/
def expand (s : Stream) : Stream := expandFrom s.ending (s.bytes.length + 1) s.bytes

/-! ## Writing -/

/-- Blocks that store the text; `fuel` is at least its length. -/
def storeFrom : (fuel : Nat) → Bytes → Bytes
  | 0, _ => []
  | fuel + 1, bs =>
    if bs.isEmpty then []
    else
      let head := bs.take 65536
      LittleEndian.put 4 (head.length + 0x80000000) ++ head ++ storeFrom fuel (bs.drop 65536)

/-- A frame of stored blocks. -/
def write (text : Bytes) : Bytes :=
  let head : Bytes := [0x64, 0x40]
  LittleEndian.put 4 magic ++ head ++ [((Checksum.xxh32 head).toNat / 256).toUInt8]
    ++ storeFrom text.length text ++ LittleEndian.put 4 0
    ++ LittleEndian.put 4 (Checksum.xxh32 text).toNat

end DetectorStream.Lz4
