import DetectorStream.Fault.Basic
import DetectorStream.Number.Shortest

/-!
# Byte counts for people

A byte count below 1024 is written out; a larger one is divided by the largest power of 1024 that
fits and written with one decimal place and the letter of that power. A negative count is a minus
sign and its negation. Counts and divisors are words of sixty-four bits, which wrap.

* `Scaling`: the search for the divisor and its letter.
* `tell`, `text`: the text of a count, a crash, or no end.
-/

namespace DetectorStream.ByteSize

/-- The letters of the powers of 1024. -/
def letters : List UInt8 := [0x4B, 0x4D, 0x47, 0x54, 0x50, 0x45]

/-- A search for the divisor of a count: what the count leaves when it is divided, the divisor, and
the place of its letter. -/
structure Scaling where
  left : Int64
  divisor : Int64
  place : Nat
deriving DecidableEq, Repr

namespace Scaling

/-- The search for the divisor of `n` begins at 1024 itself. -/
def start (n : Int64) : Scaling := ⟨n / 1024, 1024, 0⟩

/-- Divide once more. -/
def next (s : Scaling) : Scaling := ⟨s.left / 1024, s.divisor * 1024, s.place + 1⟩

theorem toInt_div_1024 {n : Int64} (h : 0 ≤ n.toInt) : (n / 1024).toInt = n.toInt / 1024 := by
  rw [Int64.toInt_div_of_ne_right _ _ (by decide), Int.tdiv_eq_ediv_of_nonneg h]
  rfl

theorem toInt_next_left {s : Scaling} (h : 1024 ≤ s.left) :
    s.next.left.toInt = s.left.toInt / 1024 := by
  rw [Int64.le_iff_toInt_le] at h
  exact toInt_div_1024 (Int.le_trans (by decide) h)

/-- Divide for as long as 1024 fits into what is left. -/
def settle (s : Scaling) : Scaling := if 1024 ≤ s.left then s.next.settle else s
termination_by s.left.toInt.toNat
decreasing_by
  rename_i h
  rw [toInt_next_left h]
  have hle : (1024 : Int64).toInt ≤ s.left.toInt := Int64.le_iff_toInt_le.mp h
  have hunit : (1024 : Int64).toInt = 1024 := rfl
  omega

end Scaling

/-- The text of a count that is not negative. A divisor without a letter is a crash. -/
def magnitude (n : Int64) : Except Stop Text :=
  if n < 1024 then .ok (Decimal.ofInt n.toInt ++ " B")
  else
    let s := (Scaling.start n).settle
    match letters[s.place]? with
    | none => .error .crash
    | some letter =>
      .ok (Fixed.render 1 (Binary64.ofInt n.toInt / Binary64.ofInt s.divisor.toInt)
        ++ [0x20, letter, 0x42])

/-- The text of a byte count, if it can be told with so many calls: a minus sign and the text of the
negated count when it is negative. Asking for the text of the negated count is another call. -/
def tell : (calls : Nat) → Int64 → Option (Except Stop Text)
  | 0, _ => none
  | calls + 1, n =>
    if n < 0 then (tell calls (-n)).map (·.map (0x2D :: ·)) else some (magnitude n)

/-- The text of a byte count. A count that is not told with two calls is not told with any number of
them: then the calls have no end. -/
def text (n : Int64) : Option (Except Stop Text) := tell 2 n

end DetectorStream.ByteSize
