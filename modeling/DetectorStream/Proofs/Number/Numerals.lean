import DetectorStream.Proofs.Number.Digits

/-!
# Reading numerals

A numeral in base ten is a sign, or none, and digits. It is read as the value of its digits, if that
lies in the range that is asked for; nothing else is read. So a whole number that was written comes
back.

* `Decimal.readNat?_ofNat`: the digits of a number.
* `Numeral.digits_eq_ok`: reading digits up to a bound.
* `Numeral.Denotes`: what a numeral says.
* **`Numeral.parseInt_eq_ok`**: what is read; `Numeral.parseInt_ofInt`: a number that was written is
  read back.
-/

namespace DetectorStream

namespace Decimal

variable {t : Text} {n : Nat}

theorem readNat?_eq_some : readNat? t = some n ↔
    t ≠ [] ∧ t.all Text.isDigit = true ∧ valueFrom 0 t = n := by
  unfold readNat?
  cases t with
  | nil => exact iff_of_false nofun fun h => h.1 rfl
  | cons b t =>
    cases (b :: t).all Text.isDigit with
    | false => exact iff_of_false nofun fun h => nomatch h.2.1
    | true => simp

theorem readNat?_ofNat (n : Nat) : readNat? (ofNat n) = some n :=
  readNat?_eq_some.mpr
    ⟨ofNat_ne_nil n, List.all_eq_true.mpr (isDigit_of_mem_ofNat n), valueFrom_ofNat n⟩

/-- The octets of written numbers: the digits and the minus sign. -/
def isNumeral (b : UInt8) : Bool := Text.isDigit b || b == 0x2D

theorem isNumeral_of_mem_ofInt (i : Int) : ∀ b ∈ ofInt i, isNumeral b = true := by
  unfold isNumeral
  cases i with
  | ofNat n =>
    intro b hb
    rw [isDigit_of_mem_ofNat n b hb, Bool.true_or]
  | negSucc n =>
    intro b hb
    rcases List.mem_cons.mp hb with rfl | hb
    · rfl
    · rw [isDigit_of_mem_ofNat (n + 1) b hb, Bool.true_or]

theorem ofInt_ne_nil (i : Int) : ofInt i ≠ [] := by
  cases i with
  | ofNat n => exact ofNat_ne_nil n
  | negSucc n => exact List.cons_ne_nil _ _

end Decimal

namespace Numeral

variable {bound acc n bits : Nat} {i : Int} {t : Text} {b : UInt8}

theorem isDigit_iff : Text.isDigit b = true ↔ 0x30 ≤ b.toNat ∧ b.toNat ≤ 0x39 := by
  simp [Text.isDigit, Text.within, UInt8.le_iff_toNat_le]

/-- Digits, and no other octets, have values below ten. -/
theorem digitValue?_lt {d : Nat} :
    digitValue? b = some d ∧ d < 10 ↔ Text.isDigit b = true ∧ d = b.toNat - 0x30 := by
  unfold digitValue?
  by_cases hb : Text.isDigit b = true
  · have hrange := isDigit_iff.mp hb
    rw [if_pos hb, Option.some.injEq]
    refine ⟨fun h => ⟨hb, h.1.symm⟩, fun h => ⟨h.2.symm, ?_⟩⟩
    rw [h.2]
    omega
  · rw [if_neg hb]
    refine iff_of_false (fun ⟨hd, hlt⟩ => ?_) fun h => hb h.1
    split at hd
    · cases hd
      omega
    · cases hd

theorem le_valueFrom (acc : Nat) (t : Text) : acc ≤ Decimal.valueFrom acc t := by
  unfold Decimal.valueFrom
  induction t generalizing acc with
  | nil => exact Nat.le_refl acc
  | cons b t ih =>
    have hle := ih (acc * 10 + (b.toNat - 0x30))
    rw [List.foldl_cons]
    omega

/-- Digits below the bound are read, and nothing else is. -/
theorem digits_eq_ok (hacc : acc < bound) : digits 10 bound false acc t = .ok n ↔
    t.all Text.isDigit = true ∧ Decimal.valueFrom acc t = n ∧ n < bound := by
  induction t generalizing acc with
  | nil =>
    simp only [digits, List.all_nil, Decimal.valueFrom, List.foldl_nil, Except.ok.injEq, true_and]
    exact ⟨fun h => ⟨h, h ▸ hacc⟩, fun h => h.1⟩
  | cons b t ih =>
    rw [digits, Bool.and_false, if_neg Bool.false_ne_true, List.all_cons, Bool.and_eq_true]
    by_cases hb : Text.isDigit b = true
    · obtain ⟨hvalue, hlt⟩ := digitValue?_lt.mpr ⟨hb, rfl⟩
      have hmore : Decimal.valueFrom acc (b :: t) =
          Decimal.valueFrom (acc * 10 + (b.toNat - 0x30)) t := rfl
      rw [hvalue, hmore]
      simp only
      rw [if_neg (Nat.not_le.mpr hlt)]
      split
      · rename_i hbound
        refine iff_of_false (fun h => by cases h) fun h => ?_
        have hle := le_valueFrom (acc * 10 + (b.toNat - 0x30)) t
        omega
      · rename_i hbound
        rw [ih (Nat.lt_of_not_le hbound)]
        rw [and_iff_right hb]
    · refine iff_of_false ?_ fun h => hb h.1.1
      intro h
      split at h
      · cases h
      · rename_i d hd
        have hge : 10 ≤ d := Nat.le_of_not_lt fun hlt => hb (digitValue?_lt.mp ⟨hd, hlt⟩).1
        rw [if_pos hge] at h
        cases h

theorem parseNat_ten (hne : t ≠ []) : parseNat 10 bits t = digits 10 (2 ^ bits) false 0 t := by
  have hempty : ¬ t.isEmpty = true := mt List.isEmpty_iff.mp hne
  have hread : digits 10 (Nat.pow 2 bits) false 0 t = digits 10 (2 ^ bits) false 0 t := rfl
  unfold parseNat
  simp only [if_neg hempty, show ((10 : Nat) == 0) = false from rfl, Bool.false_eq_true, if_false,
    Bool.false_and, hread]
  cases digits 10 (2 ^ bits) false 0 t <;> rfl

theorem parseNat_eq_ok : parseNat 10 bits t = .ok n ↔
    Decimal.readNat? t = some n ∧ n < 2 ^ bits := by
  rw [Decimal.readNat?_eq_some]
  by_cases hne : t = []
  · rw [hne]
    exact iff_of_false nofun fun h => h.1.1 rfl
  · rw [parseNat_ten hne, digits_eq_ok (Nat.two_pow_pos bits), and_assoc, and_assoc,
      and_iff_right hne]

/-- **What a numeral in base ten says**: the value of its digits, with the sign before them. -/
inductive Denotes : Text → Int → Prop
  | plain {digits : Text} {n : Nat} (h : Decimal.readNat? digits = some n) : Denotes digits n
  | plus {digits : Text} {n : Nat} (h : Decimal.readNat? digits = some n) :
    Denotes (0x2B :: digits) n
  | minus {digits : Text} {n : Nat} (h : Decimal.readNat? digits = some n) :
    Denotes (0x2D :: digits) (-n)

/-- A sign is no digit. -/
theorem readNat?_sign (hb : Text.isDigit b = false) : Decimal.readNat? (b :: t) = none := by
  unfold Decimal.readNat?
  rw [List.all_cons, hb]
  rfl

theorem denotes_iff {negative : Bool} {body : Text} (h : signed t = (negative, body)) :
    Denotes t i ↔ ∃ n : Nat, Decimal.readNat? body = some n ∧ i = if negative then -(n : Int) else n := by
  unfold signed at h
  constructor
  · rintro (hn | hn | hn)
    · split at h
      · rw [readNat?_sign rfl] at hn
        cases hn
      · rw [readNat?_sign rfl] at hn
        cases hn
      · cases h
        exact ⟨_, hn, rfl⟩
    · cases h
      exact ⟨_, hn, rfl⟩
    · cases h
      exact ⟨_, hn, rfl⟩
  · rintro ⟨n, hn, rfl⟩
    split at h
    · cases h
      exact .minus hn
    · cases h
      exact .plus hn
    · cases h
      exact .plain hn

/-- **A numeral is read if what it says lies in the range, and nothing else is.** -/
theorem parseInt_eq_ok (hbits : 0 < bits) : parseInt 10 bits t = .ok i ↔
    Denotes t i ∧ -(2 ^ (bits - 1) : Nat) ≤ i ∧ i < (2 ^ (bits - 1) : Nat) := by
  obtain ⟨k, rfl⟩ : ∃ k, bits = k + 1 := ⟨bits - 1, by omega⟩
  have hpow : 2 ^ (k + 1) = 2 ^ k * 2 := Nat.pow_succ 2 k
  have hlimit : Nat.pow 2 (k + 1 - 1) = 2 ^ k := rfl
  have hpos : 0 < 2 ^ k := Nat.two_pow_pos k
  unfold parseInt
  rw [hlimit, Nat.add_sub_cancel]
  cases hsigned : signed t with
  | mk negative body =>
    rw [denotes_iff hsigned]
    simp only
    constructor
    · intro h
      split at h
      · cases h
      · rename_i n hn
        have hread := (parseNat_eq_ok.mp hn).1
        cases negative <;> simp only [Bool.false_eq_true, if_true, if_false] at h
        all_goals
          split at h
          · cases h
            exact ⟨⟨n, hread, rfl⟩, by omega, by omega⟩
          · cases h
    · rintro ⟨⟨n, hn, rfl⟩, hlo, hhi⟩
      cases negative <;> simp only [Bool.false_eq_true, if_true, if_false] at hlo hhi ⊢
      all_goals
        rw [parseNat_eq_ok.mpr ⟨hn, by omega⟩]
        simp only
        rw [if_pos (by omega)]

theorem denotes_ofInt (i : Int) : Denotes (Decimal.ofInt i) i := by
  cases i with
  | ofNat n => exact .plain (Decimal.readNat?_ofNat n)
  | negSucc n => exact .minus (Decimal.readNat?_ofNat (n + 1))

/-- **A number in range that was written is read back.** -/
theorem parseInt_ofInt {i : Int} (hbits : 0 < bits) (hlo : -(2 ^ (bits - 1)) ≤ i)
    (hhi : i < 2 ^ (bits - 1)) : parseInt 10 bits (Decimal.ofInt i) = .ok i := by
  have hcast : ((2 ^ (bits - 1) : Nat) : Int) = 2 ^ (bits - 1) := by norm_cast
  rw [parseInt_eq_ok hbits, hcast]
  exact ⟨denotes_ofInt i, hlo, hhi⟩

/-- A word is read back. -/
theorem parseInt_word (i : Int64) : parseInt 10 64 (Decimal.ofInt i.toInt) = .ok i.toInt :=
  parseInt_ofInt (by decide) i.le_toInt i.toInt_lt

/-- So is half a word. -/
theorem parseInt_half (i : Int32) : parseInt 10 32 (Decimal.ofInt i.toInt) = .ok i.toInt :=
  parseInt_ofInt (by decide) i.le_toInt i.toInt_lt

end Numeral

end DetectorStream
