import DetectorStream.Octets.LittleEndian

/-!
# Checksums

* `Crc`: cyclic redundancy checks of 32 bits, for a given reversed polynomial.
* `xxh32`, `xxh64`: the multiply-and-rotate hashes of 32 and 64 bits, with seed zero.
-/

namespace DetectorStream.Checksum

/-! ## Cyclic redundancy checks -/

/-- One bit of polynomial division. -/
def crcStep (poly c : UInt32) : UInt32 :=
  if c &&& 1 == 1 then (c >>> 1) ^^^ poly else c >>> 1

/-- The remainders of all octets. -/
def crcTable (poly : UInt32) : Array UInt32 :=
  ((List.range 256).map fun i => Nat.repeat (crcStep poly) 8 i.toUInt32).toArray

/-- The check of octets with the given table. -/
def crc (table : Array UInt32) (bs : Bytes) : UInt32 :=
  let step (c : UInt32) (b : UInt8) : UInt32 :=
    table.getD ((c ^^^ b.toUInt32) &&& 0xFF).toNat 0 ^^^ (c >>> 8)
  bs.foldl step 0xFFFFFFFF ^^^ 0xFFFFFFFF

/-- The remainders of the polynomial used by gzip. -/
def ieeeTable : Array UInt32 := crcTable 0xEDB88320

/-- The check used by gzip. -/
def ieee (bs : Bytes) : UInt32 := crc ieeeTable bs

/-- The remainders of the polynomial used by framed streams. -/
def castagnoliTable : Array UInt32 := crcTable 0x82F63B78

/-- The check used by framed streams. -/
def castagnoli (bs : Bytes) : UInt32 := crc castagnoliTable bs

/-- A check rotated and offset, so that checking a text that holds its own check stays useful. -/
def masked (c : UInt32) : UInt32 := ((c >>> 15) ||| (c <<< 17)) + 0xA282EAD8

/-! ## Hashes of 32 bits -/

/-- Rotate left. -/
def rotate32 (n x : UInt32) : UInt32 := (x <<< n) ||| (x >>> (32 - n))

/-- Mix one word into one of four lanes. -/
def round32 (lane word : UInt32) : UInt32 := rotate32 13 (lane + word * 0x85EBCA77) * 0x9E3779B1

/-- A word of four octets. -/
def word32 (bs : Bytes) : UInt32 := (LittleEndian.get (bs.take 4)).toUInt32

/-- Mix whole stripes of sixteen octets into the lanes; `fuel` bounds the stripes. -/
def stripes32 : (fuel : Nat) → (a b c d : UInt32) → Bytes → UInt32 × UInt32 × UInt32 × UInt32 × Bytes
  | 0, a, b, c, d, bs => (a, b, c, d, bs)
  | fuel + 1, a, b, c, d, bs =>
    stripes32 fuel (round32 a (word32 bs)) (round32 b (word32 (bs.drop 4)))
      (round32 c (word32 (bs.drop 8))) (round32 d (word32 (bs.drop 12))) (bs.drop 16)

/-- Mix what is left, fewer than sixteen octets. -/
def tail32 (h : UInt32) : Bytes → UInt32
  | a :: b :: c :: d :: t =>
    tail32 (rotate32 17 (h + word32 [a, b, c, d] * 0xC2B2AE3D) * 0x27D4EB2F) t
  | b :: t => tail32 (rotate32 11 (h + b.toUInt32 * 0x165667B1) * 0x9E3779B1) t
  | [] => h

/-- The hash of 32 bits. -/
def xxh32 (bs : Bytes) : UInt32 :=
  let n := bs.length
  let (a, b, c, d, rest) :=
    stripes32 (n / 16) (0x9E3779B1 + 0x85EBCA77) 0x85EBCA77 0 (0 - 0x9E3779B1) bs
  let h := if n < 16 then 0x165667B1
    else rotate32 1 a + rotate32 7 b + rotate32 12 c + rotate32 18 d
  let h := tail32 (h + n.toUInt32) rest
  let h := (h ^^^ (h >>> 15)) * 0x85EBCA77
  let h := (h ^^^ (h >>> 13)) * 0xC2B2AE3D
  h ^^^ (h >>> 16)

/-! ## Hashes of 64 bits -/

/-- Rotate left. -/
def rotate64 (n x : UInt64) : UInt64 := (x <<< n) ||| (x >>> (64 - n))

/-- The first prime of the hash. -/
def prime1 : UInt64 := 0x9E3779B185EBCA87

/-- The second prime of the hash. -/
def prime2 : UInt64 := 0xC2B2AE3D27D4EB4F

/-- The third prime of the hash. -/
def prime3 : UInt64 := 0x165667B19E3779F9

/-- The fourth prime of the hash. -/
def prime4 : UInt64 := 0x85EBCA77C2B2AE63

/-- The fifth prime of the hash. -/
def prime5 : UInt64 := 0x27D4EB2F165667C5

/-- Mix one word into one of four lanes. -/
def round64 (lane word : UInt64) : UInt64 := rotate64 31 (lane + word * prime2) * prime1

/-- Mix a lane into the hash. -/
def merge64 (h lane : UInt64) : UInt64 := (h ^^^ round64 0 lane) * prime1 + prime4

/-- A word of eight octets. -/
def word64 (bs : Bytes) : UInt64 := (LittleEndian.get (bs.take 8)).toUInt64

/-- Mix whole stripes of 32 octets into the lanes; `fuel` bounds the stripes. -/
def stripes64 : (fuel : Nat) → (a b c d : UInt64) → Bytes → UInt64 × UInt64 × UInt64 × UInt64 × Bytes
  | 0, a, b, c, d, bs => (a, b, c, d, bs)
  | fuel + 1, a, b, c, d, bs =>
    stripes64 fuel (round64 a (word64 bs)) (round64 b (word64 (bs.drop 8)))
      (round64 c (word64 (bs.drop 16))) (round64 d (word64 (bs.drop 24))) (bs.drop 32)

/-- Mix what is left, fewer than 32 octets. -/
def tail64 (h : UInt64) : Bytes → UInt64
  | a :: b :: c :: d :: e :: f :: g :: i :: t =>
    tail64 (rotate64 27 (h ^^^ round64 0 (word64 [a, b, c, d, e, f, g, i])) * prime1 + prime4) t
  | a :: b :: c :: d :: t =>
    tail64 (rotate64 23 (h ^^^ word64 [a, b, c, d] * prime1) * prime2 + prime3) t
  | b :: t => tail64 (rotate64 11 (h ^^^ b.toUInt64 * prime5) * prime1) t
  | [] => h

/-- The hash of 64 bits. -/
def xxh64 (bs : Bytes) : UInt64 :=
  let n := bs.length
  let (a, b, c, d, rest) := stripes64 (n / 32) (prime1 + prime2) prime2 0 (0 - prime1) bs
  let h := if n < 32 then prime5
    else merge64 (merge64 (merge64 (merge64
      (rotate64 1 a + rotate64 7 b + rotate64 12 c + rotate64 18 d) a) b) c) d
  let h := tail64 (h + n.toUInt64) rest
  let h := (h ^^^ (h >>> 33)) * prime2
  let h := (h ^^^ (h >>> 29)) * prime3
  h ^^^ (h >>> 32)

end DetectorStream.Checksum
