import DetectorStream.Number.Decimal
import Mathlib.Tactic.Ring

/-!
# The digits of a number

A number is written with digits and nothing else, without a zero in front, and no longer than its
size asks for. Reading the digits gives the number.

* `Decimal.isDigit_of_mem_ofNat`, `Decimal.ofNat_ne_nil`, `Decimal.head?_ofNat`: the form of a
  written number.
* `Decimal.length_ofNat_le`: how long it is.
* **`Decimal.valueFrom_ofNat`**: its value.
-/

namespace DetectorStream.Decimal

variable {n k : Nat}

/-- The octet of a digit. -/
def digit (d : Nat) : UInt8 := (0x30 + d).toUInt8

theorem isDigit_digit : ∀ d < 10, Text.isDigit (digit d) = true := by decide

theorem toNat_digit : ∀ d < 10, (digit d).toNat - 0x30 = d := by decide

theorem digit_eq_zero : ∀ d < 10, digit d = 0x30 → d = 0 := by decide

theorem ofNat_of_lt (h : n < 10) : ofNat n = [digit n] := by
  rw [ofNat, if_pos h]
  rfl

theorem ofNat_of_le (h : 10 ≤ n) : ofNat n = ofNat (n / 10) ++ [digit (n % 10)] := by
  rw [ofNat, if_neg (Nat.not_lt.mpr h)]
  rfl

/-- What holds of single digits, and of a number if it holds of the number without its last digit,
holds of every number. -/
theorem digits_induction {P : Nat → Prop} (one : ∀ n < 10, P n)
    (more : ∀ n, 10 ≤ n → P (n / 10) → P n) (n : Nat) : P n :=
  if h : n < 10 then one n h
  else more n (Nat.le_of_not_lt h) (digits_induction one more (n / 10))
termination_by n
decreasing_by omega

theorem ofNat_ne_nil (n : Nat) : ofNat n ≠ [] := by
  by_cases h : n < 10
  · simp [ofNat_of_lt h]
  · simp [ofNat_of_le (Nat.le_of_not_lt h)]

theorem isDigit_of_mem_ofNat (n : Nat) : ∀ b ∈ ofNat n, Text.isDigit b = true := by
  induction n using digits_induction with
  | one n h =>
    rw [ofNat_of_lt h]
    simpa using isDigit_digit n h
  | more n h ih =>
    intro b hb
    rw [ofNat_of_le h, List.mem_append, List.mem_singleton] at hb
    rcases hb with hb | rfl
    · exact ih b hb
    · exact isDigit_digit _ (Nat.mod_lt n (by decide))

/-- **Reading the digits of a number gives the number.** -/
theorem valueFrom_ofNat (n : Nat) : valueFrom 0 (ofNat n) = n := by
  induction n using digits_induction with
  | one n h =>
    rw [ofNat_of_lt h]
    simpa [valueFrom] using toNat_digit n h
  | more n h ih =>
    have hlast := toNat_digit (n % 10) (Nat.mod_lt n (by decide))
    unfold valueFrom at ih ⊢
    rw [ofNat_of_le h, List.foldl_append, ih, List.foldl_cons, List.foldl_nil, hlast]
    omega

/-- A number below a power of ten has no more digits than the power says. -/
theorem length_ofNat_le (hk : 0 < k) (h : n < 10 ^ k) : (ofNat n).length ≤ k := by
  induction n using digits_induction generalizing k with
  | one n hn =>
    rw [ofNat_of_lt hn]
    exact hk
  | more n hn ih =>
    cases k with
    | zero => cases hk
    | succ k =>
      rw [Nat.pow_succ] at h
      have hpos : 0 < k := by
        rcases Nat.eq_zero_or_pos k with rfl | hpos
        · omega
        · exact hpos
      have hle := ih hpos (by omega)
      rw [ofNat_of_le hn, List.length_append, List.length_singleton]
      omega

/-- Only zero begins with a zero. -/
theorem head?_ofNat (h : n ≠ 0) : (ofNat n).head? ≠ some 0x30 := by
  induction n using digits_induction with
  | one n hn =>
    rw [ofNat_of_lt hn, List.head?_cons]
    intro hd
    exact h (digit_eq_zero n hn (Option.some.inj hd))
  | more n hn ih =>
    have hih := ih (by omega)
    rw [ofNat_of_le hn]
    cases hd : ofNat (n / 10) with
    | nil => exact absurd hd (ofNat_ne_nil _)
    | cons b t => rwa [hd] at hih

end DetectorStream.Decimal
