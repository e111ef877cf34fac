import DetectorStream.Number.Binary64
import Mathlib.Tactic.Ring

/-!
# Whole numbers as doubles

A natural number below `2 ^ 53` is a double without rounding. With its leading bit at position `l`
the double has the mantissa `n * 2 ^ (52 - l)`, which lies in `[2 ^ 52, 2 ^ 53)`, and the exponent
`l - 52`; turning it back into a word shifts the mantissa right by `52 - l` again.

* `ofInt_bits`: the bits of the double.
* `unpack_normal`: what the bits of a normal double stand for.
* **`toUInt64_ofInt`**: a natural number below `2 ^ 53` survives the way into a double and back.
-/

namespace DetectorStream.Binary64

open Float.Model (UnpackedFloat Format)
open Float.Model.UnpackedFloat (unpackMantissa unpackExponent unpackSign packComponents
  ExtendedMantissa)

/-! ## From the number to the bits -/

theorem roundDiv_one (n : Nat) : roundDiv n 1 = n := by
  unfold roundDiv
  simp only [Nat.div_one, Nat.mod_one]
  rfl

/-- The mantissa of a number whose leading bit is at position `l`. -/
theorem mantissa_bounds {n : Nat} (h0 : n ≠ 0) (hn : n < 2 ^ 53) :
    n.log2 ≤ 52 ∧ 2 ^ 52 ≤ n * 2 ^ (52 - n.log2) ∧ n * 2 ^ (52 - n.log2) < 2 ^ 53 := by
  have hl : n.log2 < 53 := (Nat.log2_lt h0).mpr hn
  have hlow : 2 ^ n.log2 ≤ n := Nat.log2_self_le h0
  have hhigh : n < 2 ^ (n.log2 + 1) := Nat.lt_log2_self
  have hpos : 0 < 2 ^ (52 - n.log2) := Nat.two_pow_pos _
  refine ⟨by omega, ?_, ?_⟩
  · calc 2 ^ 52 = 2 ^ n.log2 * 2 ^ (52 - n.log2) := by
          rw [← Nat.pow_add]
          congr 1
          omega
      _ ≤ n * 2 ^ (52 - n.log2) := Nat.mul_le_mul_right _ hlow
  · calc n * 2 ^ (52 - n.log2) < 2 ^ (n.log2 + 1) * 2 ^ (52 - n.log2) :=
          Nat.mul_lt_mul_of_pos_right hhigh hpos
      _ = 2 ^ 53 := by
          rw [← Nat.pow_add]
          congr 1
          omega

/-- Scaling by a power of two that is not above one is exact, whether it is written as a quotient or
as a product. -/
theorem scaled_eq {n l : Nat} (hl : l ≤ 52) {g : Int} (hg : g = (l : Int) - 52) :
    (if 0 ≤ g then roundDiv n (1 * Nat.pow 2 g.toNat) else roundDiv (n * Nat.pow 2 (-g).toNat) 1) =
        n * 2 ^ (52 - l) ∧
      (if 0 ≤ g then n / (1 * Nat.pow 2 g.toNat) else n * Nat.pow 2 (-g).toNat / 1) =
        n * 2 ^ (52 - l) := by
  by_cases h : 0 ≤ g
  · have hz : g.toNat = 0 := by omega
    have hl' : 52 - l = 0 := by omega
    rw [if_pos h, if_pos h, hz, hl']
    show roundDiv n 1 = n * 1 ∧ n / 1 = n * 1
    rw [roundDiv_one, Nat.div_one, Nat.mul_one]
    exact ⟨rfl, rfl⟩
  · have hz : (-g).toNat = 52 - l := by omega
    rw [if_neg h, if_neg h, hz, roundDiv_one, Nat.div_one]
    exact ⟨rfl, rfl⟩

/-- The bits of a natural number below `2 ^ 53`. -/
theorem ofInt_bits {n : Nat} (h0 : n ≠ 0) (hn : n < 2 ^ 53) :
    ofInt n = Float.ofBits
      ((n.log2 + 1023) * 2 ^ 52 + (n * 2 ^ (52 - n.log2) - 2 ^ 52)).toUInt64 := by
  obtain ⟨hl, hlow, hhigh⟩ := mantissa_bounds h0 hn
  have hlog : ((Nat.log2 1 : Nat) : Int) = 0 := by decide
  have hneg : decide ((n : Int) < 0) = false := decide_eq_false (by omega)
  have hzero : (n == 0 || 1 == 0) = false := by simp [h0]
  -- the first guess of the exponent is right, and nothing has to be rounded
  obtain ⟨hscaled, hfloor⟩ := scaled_eq (n := n) hl (g := (n.log2 : Int) - 0 - 52) (by omega)
  have hmax : max ((n.log2 : Int) - 0 - 52) (-1074) = (n.log2 : Int) - 0 - 52 := by omega
  have hexp : ((n.log2 : Int) - 0 - 52 + 1075).toNat = n.log2 + 1023 := by omega
  have hbig : ¬ (n.log2 : Int) - 0 - 52 > 971 := by omega
  have hfull : (n * 2 ^ (52 - n.log2) == 0x20000000000000) = false := by
    rw [beq_eq_false_iff_ne]
    omega
  unfold ofInt ofRatio
  simp only [Int.natAbs_natCast, hneg, hzero, hlog, hfloor]
  rw [if_neg (show ¬ n * 2 ^ (52 - n.log2) < 0x10000000000000 by omega), hmax]
  simp only [hscaled, hfull, Bool.false_eq_true, if_false]
  rw [if_neg hbig, if_neg (show ¬ n * 2 ^ (52 - n.log2) < 0x10000000000000 by omega), hexp,
    Nat.zero_add, show (2 : Nat) ^ 52 = 0x10000000000000 from rfl]

/-! ## From the bits to the number -/

theorem toNat_unpackMantissa (b : BitVec Format.binary64.numBits) :
    (unpackMantissa b).toNat = b.toNat % 2 ^ 52 := by
  simp [unpackMantissa]

theorem toNat_unpackExponent (b : BitVec Format.binary64.numBits) :
    (unpackExponent b).toNat = b.toNat / 2 ^ 52 % 2 ^ 11 := by
  simp [unpackExponent, Nat.shiftRight_eq_div_pow]

theorem toNat_unpackSign (b : BitVec Format.binary64.numBits) :
    (unpackSign b).toNat = b.toNat / 2 ^ 63 % 2 := by
  show (b.extractLsb 63 63).toNat = b.toNat / 2 ^ 63 % 2
  rw [BitVec.extractLsb_toNat, Nat.shiftRight_eq_div_pow]

/-- The implicit leading bit of a normal mantissa. -/
theorem toNat_implicit (m : BitVec 52) : (1#1 ++ m).toNat = 2 ^ 52 + m.toNat := by
  rw [BitVec.toNat_append, ← Nat.shiftLeft_add_eq_or_of_lt m.isLt]
  rfl

theorem finite_congr {s s' : UnpackedFloat.Sign} {m m' : Nat} {e e' : Int} {hm : 0 < m}
    {hm' : 0 < m'} (hs : s = s') (hmm : m = m') (he : e = e') :
    UnpackedFloat.finite s m e hm = .finite s' m' e' hm' := by
  subst hs hmm he
  rfl

/-- What the bits of a positive normal double stand for. -/
theorem unpack_normal {b : BitVec Format.binary64.numBits} {e r : Nat} (he : 0 < e)
    (he' : e < 2047) (hr : r < 2 ^ 52) (hb : b.toNat = e * 2 ^ 52 + r) :
    UnpackedFloat.unpack Format.binary64 b =
      .finite .positive (2 ^ 52 + r) ((e : Int) - 1075) (by omega) := by
  have hm : (unpackMantissa b).toNat = r := by
    rw [toNat_unpackMantissa, hb]
    omega
  have hx : (unpackExponent b).toNat = e := by
    rw [toNat_unpackExponent, hb]
    omega
  have hs : unpackSign b = 0#1 := by
    refine BitVec.eq_of_toNat_eq ?_
    rw [toNat_unpackSign, hb]
    show (e * 2 ^ 52 + r) / 2 ^ 63 % 2 = 0
    omega
  have hinf : unpackExponent b ≠ -1#_ := by
    intro h
    have h' := congrArg BitVec.toNat h
    rw [hx] at h'
    exact absurd h' (show e ≠ 2047 by omega)
  have hsub : unpackExponent b ≠ 0#_ := by
    intro h
    have h' := congrArg BitVec.toNat h
    rw [hx] at h'
    exact absurd h' (show e ≠ 0 by omega)
  have hmant : (1#1 ++ unpackMantissa b).toNat = 2 ^ 52 + r := by rw [toNat_implicit, hm]
  have hsign : UnpackedFloat.Sign.ofBitVec (unpackSign b) = .positive := by rw [hs]; rfl
  have hexp : ((unpackExponent b).toNat : Int) -
      (Format.binary64.exponentBias + Format.binary64.mantissaBitsWithoutImplicit) =
      (e : Int) - 1075 := by
    rw [hx]
    rfl
  unfold UnpackedFloat.unpack
  dsimp only
  rw [if_neg hinf, if_neg hsub]
  exact finite_congr hsign hmant hexp

/-- The bits of a positive normal number. -/
theorem toNat_pack_normal {e r : Nat} (he : 0 < e) (he' : e < 2047) (hr : r < 2 ^ 52) :
    (UnpackedFloat.pack Format.binary64
      (.finite .positive (2 ^ 52 + r) ((e : Int) - 1075) (by omega))).toNat = e * 2 ^ 52 + r := by
  have hlog : (2 ^ 52 + r).log2 + 1 = Format.binary64.mantissaBits := by
    have hlow : 52 ≤ (2 ^ 52 + r).log2 := (Nat.le_log2 (by omega)).mpr (by omega)
    have hhigh : (2 ^ 52 + r).log2 < 53 := (Nat.log2_lt (by omega)).mpr (by omega)
    show _ = 1 + 52
    omega
  have hexp : ((e : Int) - 1075 + (Format.binary64.exponentBias : Int) +
      (Format.binary64.mantissaBitsWithoutImplicit : Int)).toNat = e := by
    show ((e : Int) - 1075 + 1023 + 52).toNat = e
    omega
  unfold UnpackedFloat.pack
  simp only [hexp, hlog, if_true]
  rw [if_neg (show ¬ 2 ^ 11 ≤ e + 1 by omega)]
  unfold packComponents
  rw [BitVec.toNat_append, ← Nat.shiftLeft_add_eq_or_of_lt (BitVec.isLt _), BitVec.toNat_append,
    ← Nat.shiftLeft_add_eq_or_of_lt (BitVec.isLt _), Nat.shiftLeft_eq, Nat.shiftLeft_eq,
    BitVec.toNat_ofNat, BitVec.toNat_ofNat]
  show (0 * 2 ^ 11 + e % 2 ^ 11) * 2 ^ 52 + (2 ^ 52 + r) % 2 ^ 52 = e * 2 ^ 52 + r
  omega

theorem unpack_ofBits_eq (a : UInt64) :
    (Float.ofBits a).toModel.unpack = UnpackedFloat.unpack Format.binary64
      (UnpackedFloat.pack Format.binary64 (UnpackedFloat.unpack Format.binary64 a.toBitVec)) := rfl

/-- A positive normal double, from its bits. -/
theorem unpack_ofBits {e r : Nat} (he : 0 < e) (he' : e < 2047) (hr : r < 2 ^ 52) :
    (Float.ofBits (e * 2 ^ 52 + r).toUInt64).toModel.unpack =
      .finite .positive (2 ^ 52 + r) ((e : Int) - 1075) (by omega) := by
  have hbits : ((e * 2 ^ 52 + r).toUInt64.toBitVec).toNat = e * 2 ^ 52 + r := by
    rw [UInt64.toNat_toBitVec, Nat.toUInt64_eq, UInt64.toNat_ofNat']
    omega
  rw [unpack_ofBits_eq, unpack_normal he he' hr hbits]
  exact unpack_normal he he' hr (toNat_pack_normal he he' hr)

/-! ## Shifting the mantissa back -/

theorem mantissa_shiftRight (em : ExtendedMantissa) (n : Nat) :
    (em >>> n).mantissa = em.mantissa / 2 ^ n := by
  show (n.repeat ExtendedMantissa.shiftRightOne em).mantissa = _
  induction n with
  | zero => exact (Nat.div_one _).symm
  | succ n ih =>
    show (n.repeat ExtendedMantissa.shiftRightOne em).mantissa / 2 = _
    rw [ih, Nat.div_div_eq_div_mul, ← Nat.pow_succ]

theorem roundToInt_positive {m s : Nat} {e : Int} (he : e = -(s : Int)) :
    UnpackedFloat.roundToInt .positive m e = ((m / 2 ^ s : Nat) : Int) := by
  have hup : (e - 0).toNat = 0 := by omega
  have hdown : (0 - (e - ((0 : Nat) : Int))).toNat = s := by omega
  unfold UnpackedFloat.roundToInt UnpackedFloat.decreaseExponent UnpackedFloat.shiftToExponent
  simp only [hup, hdown, mantissa_shiftRight]
  rfl

theorem toUInt64_of_unpack {f : Float} {m : Nat} {e : Int} {hm : 0 < m}
    (h : f.toModel.unpack = .finite .positive m e hm) :
    f.toUInt64 = UInt64.ofNatClamp (UnpackedFloat.roundToInt .positive m e).toNat := by
  unfold Float.toUInt64 Float.Model.toUInt64 UnpackedFloat.toUInt64
  rw [h]
  rfl

/-- **A natural number below `2 ^ 53` survives the way through a double.** -/
theorem toUInt64_ofInt {n : Nat} (hn : n < 2 ^ 53) : (ofInt n).toUInt64 = UInt64.ofNat n := by
  by_cases h0 : n = 0
  · subst h0
    decide
  · obtain ⟨hl, hlow, hhigh⟩ := mantissa_bounds h0 hn
    have hunpack := unpack_ofBits (e := n.log2 + 1023) (r := n * 2 ^ (52 - n.log2) - 2 ^ 52)
      (by omega) (by omega) (by omega)
    have hmant : 2 ^ 52 + (n * 2 ^ (52 - n.log2) - 2 ^ 52) = n * 2 ^ (52 - n.log2) := by omega
    have hround : UnpackedFloat.roundToInt .positive (2 ^ 52 + (n * 2 ^ (52 - n.log2) - 2 ^ 52))
        (((n.log2 + 1023 : Nat) : Int) - 1075) = (n : Int) := by
      rw [roundToInt_positive (s := 52 - n.log2) (by omega), hmant,
        Nat.mul_div_cancel _ (Nat.two_pow_pos _)]
    rw [ofInt_bits h0 hn, toUInt64_of_unpack hunpack, hround]
    refine UInt64.toNat_inj.mp ?_
    have hsize : n < UInt64.size := Nat.lt_trans hn (by decide)
    rw [Int.toNat_natCast, UInt64.toNat_ofNatClamp_of_lt hsize, UInt64.toNat_ofNat_of_lt' hsize]

end DetectorStream.Binary64
