import DetectorStream.Compression.Bits
import DetectorStream.Compression.Checksum
import DetectorStream.Octets.Stream

/-!
# Framed streams

A framed stream is a run of chunks. The first chunk names the stream; data chunks hold a check and a
text, either as it is or packed into literals and copies. Chunks of other types are skipped or
refused by their number. In a packed text a copy may repeat the distance of the one before it. A file
that breaks off between two chunks has a text that breaks off.

* `Framed.unpack?`: the text of a packed text.
* `Framed.expand`: the stream of a file.
* `Framed.write`: a stream of chunks that hold the text as it is.
-/

namespace DetectorStream.Framed

/-! ## Packed texts -/

/-- A number in groups of seven bits, the lowest first; at most 32 bits. -/
def varint? (shift acc : Nat) : Bytes → Option (Nat × Bytes)
  | [] => none
  | b :: t =>
    let acc := acc + b.toNat % 128 * Nat.pow 2 shift
    if 63 < shift then none
    else if b < 128 then (if acc < 0x100000000 then some (acc, t) else none)
    else varint? (shift + 7) acc t

/-- The next `n` octets as a number. -/
def word? (n : Nat) (bs : Bytes) : Option (Nat × Bytes) :=
  if bs.length < n then none else some (LittleEndian.get (bs.take n), bs.drop n)

/-- One element of a packed text. -/
inductive Element
  | literal (length : Nat)
  | copy (distance length : Nat)

/-- Read the head of an element; `last` is the distance of the last copy. -/
def element? (last : Nat) (bs : Bytes) : Option (Element × Bytes) :=
  match bs with
  | [] => none
  | tag :: t =>
    let x := tag.toNat / 4
    match tag.toNat % 4 with
    | 0 =>
      if x < 60 then some (.literal (x + 1), t)
      else (word? (x - 59) t).map fun (n, t) => (.literal (n + 1), t)
    | 1 =>
      match t with
      | [] => none
      | b :: t =>
        let distance := tag.toNat / 32 * 256 + b.toNat
        let n := x % 8
        if distance ≠ 0 then some (.copy distance (n + 4), t)
        else if n < 5 then some (.copy last (n + 4), t)
        else
          let base := if n == 5 then 4 else if n == 6 then 256 else 65536
          (word? (n - 4) t).map fun (m, t) => (.copy last (m + base + 4), t)
    | 2 => (word? 2 t).map fun (d, t) => (.copy d (x + 1), t)
    | _ => (word? 4 t).map fun (d, t) => (.copy d (x + 1), t)

/-- Read elements up to the end; the text must come out `size` octets long. Every element takes an
octet, which bounds `fuel`. -/
def elements (size : Nat) : (fuel last : Nat) → Bytes → Array UInt8 → Option (Array UInt8)
  | 0, _, _, _ => none
  | _ + 1, _, [], out => if out.size == size then some out else none
  | fuel + 1, last, bs, out =>
    match element? last bs with
    | none => none
    | some (.literal n, t) =>
      if t.length < n || size < out.size + n then none
      else elements size fuel last (t.drop n) ((t.take n).foldl Array.push out)
    | some (.copy distance n, t) =>
      if distance == 0 || out.size < distance || size < out.size + n then none
      else elements size fuel distance t (copyBack distance n out)

/-- The text of a packed text, which starts with the length of the text. -/
def unpack? (most : Nat) (bs : Bytes) : Option Bytes :=
  match varint? 0 0 bs with
  | none => none
  | some (size, t) =>
    if most < size then none else (elements size (t.length + 1) 0 t #[]).map Array.toList

/-! ## Chunks -/

/-- The names a stream may give itself. -/
def names : List Text := ["S2sTwO", "sNaPpY"]

/-- The most octets of text in a chunk of a stream of the second name. -/
def plainMost : Nat := 65536

/-- Read chunks onto the reversed pieces of text, in a file that ends like this. `most` bounds the text
of a chunk, `plain` says that the stream gave itself the second name. Every chunk takes octets, which
bounds `fuel`. -/
def chunks (ending : Ending) (most : Nat) : (fuel : Nat) → (plain : Bool) → Bytes → List Bytes → Stream
  | 0, _, _, acc => .damaged acc.reverse.flatten
  | fuel + 1, plain, bs, acc =>
    let damaged := Stream.damaged acc.reverse.flatten
    match bs with
    | [] => { bytes := acc.reverse.flatten, ending := ending }
    | kind :: a :: b :: c :: t =>
      let size := LittleEndian.get [a, b, c]
      let body := t.take size
      let rest := t.drop size
      let limit := if plain then min most plainMost else most
      if body.length < size then damaged
      else if kind == 0xFF then
        if body == "S2sTwO" then chunks ending most fuel false rest acc
        else if body == "sNaPpY" then chunks ending most fuel true rest acc
        else damaged
      else if kind == 0 || kind == 1 then
        let text := if kind == 0 then unpack? limit (body.drop 4)
          else if limit < size - 4 then none else some (body.drop 4)
        match text with
        | none => damaged
        | some text =>
          if size < 4 then damaged
          else if LittleEndian.get (body.take 4) == (Checksum.masked (Checksum.castagnoli text)).toNat then
            chunks ending most fuel plain rest (text :: acc)
          else if kind == 0 then damaged
          else .damaged (text :: acc).reverse.flatten
      else if kind < 0x80 then damaged
      else chunks ending most fuel plain rest acc
    | _ => damaged

/-- The stream of a file, whose first chunk must name it. -/
def expand (most : Nat) (s : Stream) : Stream :=
  match s.bytes with
  | [] => { bytes := [], ending := s.ending }
  | kind :: _ =>
    if kind == 0xFF then chunks s.ending most (s.bytes.length + 1) false s.bytes [] else .damaged []

/-! ## Writing -/

/-- Chunks that hold the text as it is; `fuel` is at least its length. -/
def storeFrom : (fuel : Nat) → Bytes → Bytes
  | 0, _ => []
  | fuel + 1, bs =>
    if bs.isEmpty then []
    else
      let head := bs.take plainMost
      1 :: LittleEndian.put 3 (head.length + 4)
        ++ LittleEndian.put 4 (Checksum.masked (Checksum.castagnoli head)).toNat ++ head
        ++ storeFrom fuel (bs.drop plainMost)

/-- A stream of the given name. -/
def write (name : Text) (text : Bytes) : Bytes :=
  if text.isEmpty then [] else 0xFF :: LittleEndian.put 3 6 ++ name ++ storeFrom text.length text

end DetectorStream.Framed
