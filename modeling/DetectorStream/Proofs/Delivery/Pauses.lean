import DetectorStream.Delivery.Retry
import Mathlib.Tactic.Linarith

/-!
# Pauses between attempts

The pause after an attempt is the first pause doubled once for every attempt before, up to a limit.
A pause is a word of sixty-four bits, and it is doubled before it is compared with the limit. So the
doubling has to meet the limit before it leaves the words: it always does below a limit of
`2 ^ 62` nanoseconds, and where it does not, the pause that leaves the words comes back negative.

* `wrapped`, `Stops`: the doubled pause as a word, and after how many doublings it is left alone.
* **`exists_stops`**: what the doubling gives, for all words.
* `Meets`: the doubling meets the limit in time.
* `base_eq_of_meets`, `base_eq_of_wraps`: the pauses if it does, and where it does not.
* **`base_exact_iff`**: the pauses are the exact ones if and only if it does.
-/

namespace DetectorStream.Delivery.Policy

variable {b limit : Int} {n i : Nat}

/-! ## Doubling words -/

/-- A pause that was doubled `n` times, as a word holds it. -/
def wrapped (b : Int) (n : Nat) : Int := (b * 2 ^ n).bmod (2 ^ 64)

theorem wrapped_of_range (h : -2 ^ 63 ≤ b * 2 ^ n) (h' : b * 2 ^ n < 2 ^ 63) :
    wrapped b n = b * 2 ^ n :=
  Int.bmod_eq_of_le_mul_two (by omega) (by omega)

theorem wrapped_zero (d : Duration) : wrapped d.toInt 0 = d.toInt := by
  have hle := d.le_toInt
  have hlt := d.toInt_lt
  rw [wrapped_of_range (by omega) (by omega)]
  omega

theorem wrapped_double (d : Duration) (n : Nat) :
    wrapped (d * 2).toInt n = wrapped d.toInt (n + 1) := by
  unfold wrapped
  rw [Int64.toInt_mul, Int.bmod_mul_bmod, Int.pow_succ', ← Int.mul_assoc]
  rfl

/-- **Doubling up to `n` times stops after `i` times**: these were all, or the limit was met, and it
was not met before. -/
structure Stops (b limit : Int) (n i : Nat) : Prop where
  le : i ≤ n
  met : i = n ∨ limit ≤ wrapped b i
  unmet : ∀ j < i, wrapped b j < limit

/-- **What the doubling of a pause gives.** -/
theorem exists_stops (cap : Duration) (n : Nat) (d : Duration) :
    ∃ i, Stops d.toInt cap.toInt n i ∧ (doubled cap n d).toInt = wrapped d.toInt i := by
  induction n generalizing d with
  | zero => exact ⟨0, ⟨Nat.le_refl 0, .inl rfl, nofun⟩, (wrapped_zero d).symm⟩
  | succ n ih =>
    unfold doubled
    split
    · rename_i hlt
      obtain ⟨i, hstops, hvalue⟩ := ih (d * 2)
      rw [wrapped_double] at hvalue
      refine ⟨i + 1, ⟨Nat.succ_le_succ hstops.le, ?_, fun j hj => ?_⟩, hvalue⟩
      · rw [← wrapped_double, Nat.add_right_cancel_iff]
        exact hstops.met
      · cases j with
        | zero =>
          rw [wrapped_zero]
          exact Int64.lt_iff_toInt_lt.mp hlt
        | succ j =>
          rw [← wrapped_double]
          exact hstops.unmet j (Nat.lt_of_succ_lt_succ hj)
    · rename_i hge
      rw [Int64.not_lt, Int64.le_iff_toInt_le, ← wrapped_zero d] at hge
      exact ⟨0, ⟨Nat.zero_le _, .inr hge, nofun⟩, (wrapped_zero d).symm⟩

theorem wrapped_of_wraps (h : 2 ^ 63 ≤ b * 2 ^ n) (h' : b * 2 ^ n < 2 ^ 64) :
    wrapped b n = b * 2 ^ n - 2 ^ 64 := by
  unfold wrapped
  rw [Int.bmod_def]
  omega

theorem double_nonneg (hb : 0 ≤ b) (n : Nat) : 0 ≤ b * 2 ^ n :=
  Int.mul_nonneg hb (Int.pow_nonneg (by decide))

theorem double_le (hb : 0 ≤ b) (h : i ≤ n) : b * 2 ^ i ≤ b * 2 ^ n :=
  Int.mul_le_mul_of_nonneg_left (pow_le_pow_right₀ (by decide) h) hb

/-! ## Pauses of a policy -/

/-- **What every pause is**, before it is spread. -/
theorem base_eq_min (p : Policy) (n : Nat) :
    ∃ i, Stops p.backoff.toInt p.maxBackoff.toInt n i ∧
      (p.base (n + 1)).toInt = min (wrapped p.backoff.toInt i) p.maxBackoff.toInt := by
  obtain ⟨i, hstops, hvalue⟩ := exists_stops p.maxBackoff n p.backoff
  have htimes : ((n : Int) + 1 - 1).toNat = n := by omega
  refine ⟨i, hstops, ?_⟩
  rw [← hvalue]
  unfold base
  simp only [htimes, Int64.lt_iff_toInt_lt]
  split
  · rename_i hlt
    rw [min_eq_right (Int.le_of_lt hlt)]
  · rename_i hge
    rw [min_eq_left (Int.not_lt.mp hge)]

/-- **The doubling meets the limit** before it leaves the words, or stays at zero. -/
def Meets (b limit : Int) : Prop := b = 0 ∨ ∃ n : Nat, limit ≤ b * 2 ^ n ∧ b * 2 ^ n < 2 ^ 63

/-- A pause that is not zero grows up to every limit. -/
theorem exists_meeting (hb : 0 < b) (hlt : b < limit) :
    ∃ n : Nat, b * 2 ^ n < limit ∧ limit ≤ b * 2 ^ (n + 1) := by
  have hgrows : ∃ n : Nat, limit ≤ b * 2 ^ n := by
    refine ⟨limit.toNat, ?_⟩
    have hpow : (limit.toNat : Int) < 2 ^ limit.toNat := by exact_mod_cast Nat.lt_two_pow_self
    calc limit ≤ limit.toNat := Int.self_le_toNat limit
      _ ≤ 2 ^ limit.toNat := Int.le_of_lt hpow
      _ ≤ b * 2 ^ limit.toNat := le_mul_of_one_le_left (Int.pow_nonneg (by decide)) hb
  classical
  have hspec := Nat.find_spec hgrows
  cases hfirst : Nat.find hgrows with
  | zero =>
    rw [hfirst] at hspec
    omega
  | succ n =>
    rw [hfirst] at hspec
    exact ⟨n, Int.not_le.mp (Nat.find_min hgrows (by omega)), hspec⟩

/-- Below half of what a word holds, the doubling meets the limit. -/
theorem meets_of_le (hb : 0 ≤ b) (hle : b ≤ limit) (h : limit ≤ 2 ^ 62) : Meets b limit := by
  rcases Int.le_iff_eq_or_lt.mp hb with hzero | hpos
  · exact .inl hzero.symm
  · rcases Int.le_iff_eq_or_lt.mp hle with heq | hlt
    · exact .inr ⟨0, by omega, by omega⟩
    · obtain ⟨n, hbelow, hmeets⟩ := exists_meeting hpos hlt
      rw [Int.pow_succ, ← Int.mul_assoc] at hmeets
      refine .inr ⟨n + 1, ?_, ?_⟩
      · rw [Int.pow_succ, ← Int.mul_assoc]
        exact hmeets
      · rw [Int.pow_succ, ← Int.mul_assoc]
        omega

variable {p : Policy}

/-- **The pauses are exact if the doubling meets the limit.** -/
theorem base_eq_of_meets (hb : 0 ≤ p.backoff.toInt)
    (h : Meets p.backoff.toInt p.maxBackoff.toInt) (n : Nat) :
    (p.base (n + 1)).toInt = min (p.backoff.toInt * 2 ^ n) p.maxBackoff.toInt := by
  obtain ⟨i, hstops, hvalue⟩ := base_eq_min p n
  rw [hvalue]
  rcases h with hzero | ⟨m, hmeets, hlt⟩
  · simp [wrapped, hzero]
  · have him : i ≤ m := by
      by_contra hmi
      have hunmet := hstops.unmet m (Nat.not_le.mp hmi)
      have hnonneg := double_nonneg hb m
      rw [wrapped_of_range (by omega) hlt] at hunmet
      omega
    have hexact : wrapped p.backoff.toInt i = p.backoff.toInt * 2 ^ i := by
      have hle := double_le hb him
      have hnonneg := double_nonneg hb i
      exact wrapped_of_range (by omega) (by omega)
    rw [hexact]
    rcases hstops.met with rfl | hmet
    · rfl
    · have hle := double_le hb hstops.le
      rw [hexact] at hmet
      rw [min_eq_right hmet, min_eq_right (hmet.trans hle)]

/-- **Where the doubling leaves the words**, the pause is negative; the pauses before are exact. -/
theorem base_eq_of_wraps (hb : 0 ≤ p.backoff.toInt) {n : Nat}
    (hbelow : p.backoff.toInt * 2 ^ n < p.maxBackoff.toInt)
    (hwraps : 2 ^ 63 ≤ p.backoff.toInt * 2 ^ (n + 1)) :
    (∀ i ≤ n, (p.base (i + 1)).toInt = min (p.backoff.toInt * 2 ^ i) p.maxBackoff.toInt) ∧
      (p.base (n + 2)).toInt = p.backoff.toInt * 2 ^ (n + 1) - 2 ^ 64 ∧
      (p.base (n + 2)).toInt < 0 := by
  have hcap := p.maxBackoff.toInt_lt
  have hexact : ∀ i ≤ n, wrapped p.backoff.toInt i = p.backoff.toInt * 2 ^ i ∧
      p.backoff.toInt * 2 ^ i < p.maxBackoff.toInt := by
    intro i hi
    have hle := double_le hb hi
    have hnonneg := double_nonneg hb i
    exact ⟨wrapped_of_range (by omega) (by omega), by omega⟩
  refine ⟨fun i hi => ?_, ?_⟩
  · obtain ⟨k, hstops, hvalue⟩ := base_eq_min p i
    obtain ⟨hwrapped, hlt⟩ := hexact k (hstops.le.trans hi)
    rw [hvalue]
    rcases hstops.met with rfl | hmet
    · rw [hwrapped]
    · omega
  · obtain ⟨k, hstops, hvalue⟩ := base_eq_min p (n + 1)
    have hk : k = n + 1 := by
      rcases hstops.met with hk | hmet
      · exact hk
      · by_contra hne
        obtain ⟨hwrapped, hlt⟩ := hexact k (by have := hstops.le; omega)
        omega
    have htwice : p.backoff.toInt * 2 ^ (n + 1) = 2 * (p.backoff.toInt * 2 ^ n) := by
      rw [Int.pow_succ, ← Int.mul_assoc, Int.mul_comm]
    have hwrapped := wrapped_of_wraps hwraps (by omega)
    rw [hk, hwrapped, min_eq_left (by omega)] at hvalue
    rw [show ((n : Int) + 2) = ((n + 1 : Nat) : Int) + 1 by omega, hvalue]
    exact ⟨rfl, by omega⟩

theorem make_maxBackoff (attempts : Int64) (backoff maxBackoff : Duration) :
    (make attempts backoff maxBackoff).maxBackoff.toInt = max maxBackoff.toInt backoff.toInt := by
  unfold make
  simp only [Int64.lt_iff_toInt_lt]
  split
  · rename_i hlt
    rw [max_eq_right (Int.le_of_lt hlt)]
  · rename_i hge
    rw [max_eq_left (Int.not_lt.mp hge)]

/-- **The pauses of a policy**, before they are spread. A pause is the first one, doubled as a word
until the limit is met. So it is the exact double, up to the limit, for every attempt if and only if
the doubling meets the limit before it leaves the words, which it does below `2 ^ 62`; such pauses
are not negative, do not exceed the limit and do not decrease. Otherwise they are exact up to the
attempt at which the doubling leaves the words, and the pause after that attempt is negative. -/
theorem base_exact_iff (attempts : Int64) {backoff maxBackoff : Duration}
    (hb : 0 ≤ backoff.toInt) :
    let p := make attempts backoff maxBackoff
    let first := p.backoff.toInt
    let limit := p.maxBackoff.toInt
    (first = backoff.toInt ∧ limit = max maxBackoff.toInt backoff.toInt) ∧
    (∀ n : Nat, ∃ i, Stops first limit n i ∧
      (p.base (n + 1)).toInt = min (wrapped first i) limit) ∧
    ((∀ n : Nat, (p.base (n + 1)).toInt = min (first * 2 ^ n) limit) ↔ Meets first limit) ∧
    (limit ≤ 2 ^ 62 → Meets first limit) ∧
    (Meets first limit → ∀ n : Nat, 0 ≤ (p.base (n + 1)).toInt ∧
      (p.base (n + 1)).toInt ≤ limit ∧ (p.base (n + 1)).toInt ≤ (p.base (n + 2)).toInt) ∧
    ∀ n : Nat, first * 2 ^ n < limit → 2 ^ 63 ≤ first * 2 ^ (n + 1) →
      (∀ i ≤ n, (p.base (i + 1)).toInt = min (first * 2 ^ i) limit) ∧
        (p.base (n + 2)).toInt = first * 2 ^ (n + 1) - 2 ^ 64 ∧ (p.base (n + 2)).toInt < 0 := by
  intro p first limit
  have hlimit : limit = max maxBackoff.toInt backoff.toInt :=
    make_maxBackoff attempts backoff maxBackoff
  have hfirst : 0 ≤ first := hb
  have hle : first ≤ limit := hlimit ▸ le_max_right _ _
  refine ⟨⟨rfl, hlimit⟩, base_eq_min p, ⟨fun hexact => ?_, base_eq_of_meets hb⟩,
    meets_of_le hfirst hle, fun h n => ?_, fun n => base_eq_of_wraps hb⟩
  · -- without a meeting there is a first doubling that leaves the words
    by_contra hmeets
    have hlt := p.maxBackoff.toInt_lt
    have hpos : 0 < first :=
      lt_of_le_of_ne hfirst fun hzero => hmeets (.inl hzero.symm)
    have hbelow : first < limit :=
      lt_of_le_of_ne hle fun heq => hmeets (.inr ⟨0, by omega, by omega⟩)
    obtain ⟨n, hn, hmeeting⟩ := exists_meeting hpos hbelow
    have hwraps : 2 ^ 63 ≤ first * 2 ^ (n + 1) := by
      by_contra hfits
      exact hmeets (.inr ⟨n + 1, hmeeting, Int.not_le.mp hfits⟩)
    obtain ⟨-, -, hnegative⟩ := base_eq_of_wraps hb hn hwraps
    have hexact' := hexact (n + 1)
    rw [min_eq_right hmeeting] at hexact'
    rw [show ((n : Int) + 2) = ((n + 1 : Nat) : Int) + 1 by omega, hexact'] at hnegative
    omega
  · have hnow := base_eq_of_meets hb h n
    have hnext := base_eq_of_meets hb h (n + 1)
    have hgrows : first * 2 ^ n ≤ first * 2 ^ (n + 1) := double_le hfirst (Nat.le_succ n)
    rw [show ((n : Int) + 2) = ((n + 1 : Nat) : Int) + 1 by omega, hnow, hnext]
    exact ⟨le_min (double_nonneg hfirst n) (hfirst.trans hle), min_le_right _ _, min_le_min_right _ hgrows⟩

/-- A first pause of a second is doubled up to a minute. One of a hundred and fifty-eight years is not
doubled up to a longer limit, but becomes negative. -/
theorem base_exact_second :
    let p := make 5 1000000000 60000000000
    let q := make 3 5000000000000000000 7000000000000000000
    (p.base 1).toInt = 1000000000 ∧ (p.base 6).toInt = 32000000000 ∧
      (p.base 7).toInt = 60000000000 ∧ (q.base 2).toInt = 10000000000000000000 - 2 ^ 64 := by
  intro p q
  obtain ⟨-, -, hexact, hmeets, -⟩ := @base_exact_iff 5 1000000000 60000000000 (by decide)
  obtain ⟨-, -, -, -, -, hwraps⟩ :=
    @base_exact_iff 3 5000000000000000000 7000000000000000000 (by decide)
  have hall := hexact.mpr (hmeets (by decide))
  exact ⟨hall 0, hall 5, hall 6, (hwraps 0 (by decide) (by decide)).2.1⟩

/-- A pause that is doubled beyond the words is not the limit. -/
theorem base_misses_limit :
    let p := make 3 5000000000000000000 7000000000000000000
    (p.base 2).toInt ≠ min (p.backoff.toInt * 2 ^ 1) p.maxBackoff.toInt ∧
      (p.base 2).toInt < 0 := by
  decide

end DetectorStream.Delivery.Policy
