import DetectorStream.Text.Basic

/-!
# Little-endian words

A number is written in a fixed number of octets, least significant first. `put` and `get` are
inverse to each other on numbers that fit.

* `LittleEndian.put`: the low `width` octets of a number.
* `LittleEndian.get`: the number that octets stand for.
* `LittleEndian.words`: a run of numbers of the same width, and what follows them.
-/

namespace DetectorStream.LittleEndian

/-- The low `width` octets of `n`, least significant first. -/
def put : (width : Nat) → (n : Nat) → Bytes
  | 0, _ => []
  | w + 1, n => n.toUInt8 :: put w (n / 256)

/-- The number written by the octets. -/
def get : Bytes → Nat
  | [] => 0
  | b :: t => b.toNat + 256 * get t

@[simp] theorem length_put (width n : Nat) : (put width n).length = width := by
  induction width generalizing n with
  | zero => rfl
  | succ w ih => simp [put, ih]

theorem get_put (width n : Nat) : get (put width n) = n % Nat.pow 256 width := by
  induction width generalizing n with
  | zero => simp [put, get, Nat.mod_one]
  | succ w ih =>
    have h : n.toUInt8.toNat = n % 256 := by simp
    have hp : Nat.pow 256 (w + 1) = 256 * Nat.pow 256 w := Nat.mul_comm _ _
    rw [put, get, ih, h, hp, Nat.mod_mul]

/-- Read `count` numbers of `width` octets each, onto the reversed list of those read so far. -/
def wordsOnto (width : Nat) : (count : Nat) → (acc : List Nat) → Bytes → List Nat × Bytes
  | 0, acc, bs => (acc.reverse, bs)
  | n + 1, acc, bs => wordsOnto width n (get (bs.take width) :: acc) (bs.drop width)

/-- Read `count` numbers of `width` octets each; octets that are missing count as zeros. -/
def words (width count : Nat) (bs : Bytes) : List Nat × Bytes := wordsOnto width count [] bs

/-- A signed 64-bit word. -/
def int64 (n : Nat) : Int64 := n.toUInt64.toInt64

/-- A signed 32-bit word. -/
def int32 (n : Nat) : Int32 := n.toUInt32.toInt32

theorem int64_toNat (i : Int64) : int64 i.toUInt64.toNat = i := by
  unfold int64
  rw [Nat.toUInt64_eq, UInt64.ofNat_toNat, Int64.toInt64_toUInt64]

theorem int32_toNat (i : Int32) : int32 i.toUInt32.toNat = i := by
  unfold int32
  rw [Nat.toUInt32_eq, UInt32.ofNat_toNat, Int32.toInt32_toUInt32]

theorem toNat_int64 {n : Nat} (h : n < Nat.pow 256 8) : (int64 n).toUInt64.toNat = n := by
  unfold int64
  rw [UInt64.toUInt64_toInt64, Nat.toUInt64_eq, UInt64.toNat_ofNat_of_lt' h]

theorem toNat_int32 {n : Nat} (h : n < Nat.pow 256 4) : (int32 n).toUInt32.toNat = n := by
  unfold int32
  rw [UInt32.toUInt32_toInt32, Nat.toUInt32_eq, UInt32.toNat_ofNat_of_lt' h]

end DetectorStream.LittleEndian
