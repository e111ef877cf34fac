import DetectorStream.Proofs.Delivery.Numbering
import Mathlib.Data.List.Forall2

/-!
# How a send with retries goes

Whatever the attempts at a message come to, a send follows them one by one: it ends with the first
that succeeds or fails for good, with the last that the policy allows, or with the first whose pause
is interrupted. Before each pause the attempt that failed is announced once.

* `Sending`: a message, and how the attempts at it go.
* `Sending.offer_after`: the attempts that are repeated, one after the other.
* `Sending.Ends`: how often the transmitter was called, how the send ended, and what was announced.
* `ends_settled`, `ends_exhausted`, `ends_interrupted`: the three ways in which a send ends.
* **`withRetry_follows`**: a send with any policy and any attempts.
-/

namespace DetectorStream.Delivery

/-- A message that is sent, and how the attempts at it go, which are counted from one. -/
structure Sending where
  policy : Policy
  /-- What chance decides about the pause after an attempt. -/
  chance : Nat → Chance
  context : Context
  topic : Text
  message : Bytes
  /-- Why an attempt fails, if it does. -/
  fault : Nat → Option Fault
  /-- The context in which the caller goes on after an attempt. -/
  after : Nat → Context

namespace Sending

variable (x : Sending)

/-- A transmitter whose attempts go like this. It keeps the calls that were made. -/
def transmitter : Transmitter (List Call) := fun ctx topic message calls =>
  ⟨calls ++ [⟨ctx, topic, message⟩], x.after (calls.length + 1), x.fault (calls.length + 1), []⟩

/-- What the send comes to, with retries. -/
def outcome : Outcome (List Call) :=
  x.transmitter.withRetry x.policy x.chance x.context x.topic x.message []

/-- The attempt fails with a retry hint. -/
def Retries (i : Nat) : Prop := ∃ f, x.fault i = some f ∧ f.isRetryable = true

/-- The pause after an attempt. -/
def pause (i : Nat) : Duration := x.policy.wait i (x.chance i).unit

/-- What ends the pause after an attempt early, if anything. -/
def interruption (i : Nat) : Option Fault := (x.chance i).interrupts (x.pause i) (x.after i)

/-- The context before the attempt that follows `n` others. -/
def contextAt : Nat → Context
  | 0 => x.context
  | n + 1 => x.after (n + 1)

/-- The calls of the first `n` attempts. -/
def calls (n : Nat) : List Call := (List.range n).map fun i => ⟨x.contextAt i, x.topic, x.message⟩

/-- The entry says that an attempt is going to be repeated, and why. -/
def Announces (i : Nat) (e : Log.Entry) : Prop :=
  ∃ f, x.fault i = some f ∧ e = retryEntry x.topic i (x.pause i) f

/-- **The send called the transmitter `n` times, ended like this, and announced the first `waits`
attempts**, each once and in order. -/
structure Ends (n : Nat) (fault : Option Fault) (waits : Nat) : Prop where
  calls_eq : x.outcome.state = x.calls n
  fault_eq : x.outcome.fault = fault
  announced : List.Forall₂ x.Announces (List.range' 1 waits) x.outcome.entries

@[simp] theorem length_calls (n : Nat) : (x.calls n).length = n := by
  simp [calls]

theorem calls_succ (n : Nat) :
    x.calls (n + 1) = x.calls n ++ [⟨x.contextAt n, x.topic, x.message⟩] := by
  simp [calls, List.range_succ]

/-! ## One attempt -/

/-- What is left of the send after `n` attempts, when `left` more may follow the next one. -/
def offer (left n : Nat) : Outcome (List Call) :=
  x.transmitter.offer x.policy x.chance x.topic x.message left (n + 1) (x.contextAt n) (x.calls n)

theorem outcome_eq_offer : x.outcome = x.offer (x.policy.attempts - 1) 0 := rfl

/-- The next attempt. -/
theorem transmitter_eq (n : Nat) :
    x.transmitter (x.contextAt n) x.topic x.message (x.calls n) =
      ⟨x.calls (n + 1), x.after (n + 1), x.fault (n + 1), []⟩ := by
  unfold transmitter
  rw [x.length_calls, x.calls_succ]

variable {x} {left n : Nat} {f c : Fault}

/-- An attempt that succeeds or fails for good is the last. -/
theorem offer_of_not_retries (h : ¬ x.Retries (n + 1)) :
    x.offer left n = ⟨x.calls (n + 1), x.after (n + 1), x.fault (n + 1), []⟩ := by
  unfold offer
  rw [Transmitter.offer.eq_def]
  simp only [transmitter_eq]
  split
  · rfl
  · rename_i f hfault
    rw [if_neg fun hretryable => h ⟨f, hfault, hretryable⟩]

/-- The last attempt that the policy allows. -/
theorem offer_last (hfault : x.fault (n + 1) = some f) (hretryable : f.isRetryable = true) :
    x.offer 0 n = ⟨x.calls (n + 1), x.after (n + 1), some (x.policy.exhausted f), []⟩ := by
  unfold offer
  rw [Transmitter.offer]
  simp only [transmitter_eq, hfault, hretryable, if_true]

/-- An attempt whose pause is interrupted is the last. -/
theorem offer_interrupted (hfault : x.fault (n + 1) = some f) (hretryable : f.isRetryable = true)
    (hinterrupt : x.interruption (n + 1) = some c) :
    x.offer (left + 1) n =
      ⟨x.calls (n + 1), x.after (n + 1), some (Fault.wrap .cancelled "retry cancelled" c),
        [retryEntry x.topic (n + 1) (x.pause (n + 1)) f]⟩ := by
  unfold interruption pause at hinterrupt
  unfold offer
  rw [Transmitter.offer]
  simp only [transmitter_eq, hfault, hretryable, if_true, hinterrupt]
  rfl

/-- Any other attempt is followed by the next. -/
theorem offer_again (hfault : x.fault (n + 1) = some f) (hretryable : f.isRetryable = true)
    (hinterrupt : x.interruption (n + 1) = none) :
    x.offer (left + 1) n =
      { x.offer left (n + 1) with
        entries := retryEntry x.topic (n + 1) (x.pause (n + 1)) f :: (x.offer left (n + 1)).entries } := by
  unfold interruption pause at hinterrupt
  unfold offer
  rw [Transmitter.offer]
  simp only [transmitter_eq, hfault, hretryable, if_true, hinterrupt]
  rfl

/-! ## Pauses -/

/-- A caller who is not cancelled is not interrupted. -/
theorem interruption_of_live {i : Nat} (h : x.after i = .live) : x.interruption i = none := by
  unfold interruption Chance.interrupts
  rw [h]
  rfl

/-- A caller who is cancelled is interrupted in any pause that takes time. -/
theorem interruption_of_fault {i : Nat} (hpause : 0 < x.pause i) (h : (x.after i).fault? = some c) :
    x.interruption i = some c := by
  unfold interruption Chance.interrupts
  rw [if_neg (by simp [Int64.not_le.mpr hpause])]
  generalize x.after i = ctx at h
  cases ctx with
  | live => cases h
  | cancelled => exact h
  | expired => exact h
  | soon => cases h

/-! ## All attempts -/

/-- **The attempts that are repeated follow each other**, and each is announced once. -/
theorem offer_after (n left : Nat)
    (h : ∀ i, 1 ≤ i → i ≤ n → x.Retries i ∧ x.interruption i = none) :
    ∃ entries, List.Forall₂ x.Announces (List.range' 1 n) entries ∧
      x.offer (n + left) 0 =
        { x.offer left n with entries := entries ++ (x.offer left n).entries } := by
  induction n generalizing left with
  | zero =>
    refine ⟨[], .nil, ?_⟩
    rw [Nat.zero_add]
    rfl
  | succ n ih =>
    obtain ⟨entries, hentries, hoffer⟩ := ih (left + 1) fun i hi hin => h i hi (by omega)
    obtain ⟨⟨f, hfault, hretryable⟩, hinterrupt⟩ := h (n + 1) (by omega) (Nat.le_refl _)
    rw [offer_again hfault hretryable hinterrupt] at hoffer
    refine ⟨entries ++ [retryEntry x.topic (n + 1) (x.pause (n + 1)) f], ?_, ?_⟩
    · rw [List.range'_1_concat]
      refine List.rel_append hentries (.cons ?_ .nil)
      exact ⟨f, by rw [Nat.add_comm, hfault], by rw [Nat.add_comm]⟩
    · rw [Nat.add_right_comm, Nat.add_assoc, hoffer]
      simp

/-- The calls and the entries of a send that ends with a given attempt. -/
theorem ends_of_offer {waits : Nat} {fault : Option Fault} {ctx : Context}
    {entries later : List Log.Entry}
    (hentries : List.Forall₂ x.Announces (List.range' 1 n) entries)
    (hlater : List.Forall₂ x.Announces (List.range' (n + 1) waits) later)
    (hoffer : x.outcome = ⟨x.calls (n + 1), ctx, fault, entries ++ later⟩) :
    x.Ends (n + 1) fault (n + waits) := by
  refine ⟨by rw [hoffer], by rw [hoffer], ?_⟩
  rw [hoffer, ← List.range'_append_1, Nat.add_comm 1 n]
  exact List.rel_append hentries hlater

/-- **A send ends with the first attempt that succeeds or fails for good.** -/
theorem ends_settled (hn : n < x.policy.attempts)
    (h : ∀ i, 1 ≤ i → i ≤ n → x.Retries i ∧ x.interruption i = none)
    (hlast : ¬ x.Retries (n + 1)) : x.Ends (n + 1) (x.fault (n + 1)) n := by
  obtain ⟨entries, hentries, hoffer⟩ := offer_after n (x.policy.attempts - 1 - n) h
  rw [Nat.add_sub_cancel' (by omega), ← outcome_eq_offer, offer_of_not_retries hlast] at hoffer
  have hnone : List.Forall₂ x.Announces (List.range' (n + 1) 0) [] := .nil
  exact ends_of_offer hentries hnone hoffer

/-- **A send ends with the last attempt that the policy allows.** -/
theorem ends_exhausted (hn : n + 1 = x.policy.attempts)
    (h : ∀ i, 1 ≤ i → i ≤ n → x.Retries i ∧ x.interruption i = none)
    (hfault : x.fault (n + 1) = some f) (hretryable : f.isRetryable = true) :
    x.Ends (n + 1) (some (x.policy.exhausted f)) n := by
  obtain ⟨entries, hentries, hoffer⟩ := offer_after n 0 h
  rw [show n + 0 = x.policy.attempts - 1 by omega, ← outcome_eq_offer,
    offer_last hfault hretryable] at hoffer
  have hnone : List.Forall₂ x.Announces (List.range' (n + 1) 0) [] := .nil
  exact ends_of_offer hentries hnone hoffer

/-- **A send ends with the first attempt whose pause is interrupted.** -/
theorem ends_interrupted (hn : n + 1 < x.policy.attempts)
    (h : ∀ i, 1 ≤ i → i ≤ n → x.Retries i ∧ x.interruption i = none)
    (hfault : x.fault (n + 1) = some f) (hretryable : f.isRetryable = true)
    (hinterrupt : x.interruption (n + 1) = some c) :
    x.Ends (n + 1) (some (Fault.wrap .cancelled "retry cancelled" c)) (n + 1) := by
  obtain ⟨entries, hentries, hoffer⟩ := offer_after n (x.policy.attempts - 2 - n + 1) h
  rw [show n + (x.policy.attempts - 2 - n + 1) = x.policy.attempts - 1 by omega,
    ← outcome_eq_offer, offer_interrupted hfault hretryable hinterrupt] at hoffer
  exact ends_of_offer hentries (.cons ⟨f, hfault, rfl⟩ .nil) hoffer

/-! ## Sends with any policy -/

/-- The attempt is the first that succeeds or fails for good. -/
structure Settles (x : Sending) (j : Nat) : Prop where
  pos : 1 ≤ j
  before : ∀ i, 1 ≤ i → i < j → x.Retries i
  last : ¬ x.Retries j

/-- Until a first attempt succeeds or fails for good, all fail with a hint. -/
theorem retries_of_unsettled {most : Nat} (h : ∀ j, x.Settles j → most < j) (i : Nat)
    (hi : 1 ≤ i) (hle : i ≤ most) : x.Retries i := by
  induction i using Nat.strong_induction_on with
  | _ i ih =>
    by_contra hlast
    have hsettles : x.Settles i := ⟨hi, fun k hk hki => ih k hki hk (by omega), hlast⟩
    exact absurd (h i hsettles) (by omega)

/-- A failure whose attempts are used up keeps its hint. -/
theorem exhausted_eq {p : Policy} (hretryable : f.isRetryable = true) (hp : p.attempts ≠ 1) :
    p.exhausted f = .wrapped ⟨.transmission, "retries exhausted",
      [("attempts", .number p.attempts)], true⟩ f := by
  unfold Fault.isRetryable at hretryable
  unfold Policy.exhausted Fault.wrap
  rw [if_neg hp]
  split at hretryable
  · rename_i r hfirst
    simp only [Bool.and_eq_true] at hretryable
    simp [Fault.withDetail, Report.withDetail, hfirst, hretryable.2]
  · cases hretryable

/-- **A send with retries follows its attempts.** With `most` attempts at the most: if attempt `j` is
the first that succeeds or fails for good and `j` is not beyond `most`, the transmitter is called `j`
times and the send ends as attempt `j` did; otherwise it is called `most` times, and the last failure
is returned as it is if there was only one attempt, and else below a transmission failure that says
that the attempts are used up and keeps the retry hint. A send whose caller is found to be cancelled
in the pause after attempt `i` makes no further attempt and ends as cancelled. That befalls no live
caller, and every caller who is cancelled during a pause that takes time. Each attempt that is followed
by a pause is announced once, with its number and its failure. -/
theorem withRetry_follows (x : Sending) (attempts : Int64) (backoff maxBackoff : Duration)
    (hpolicy : x.policy = .make attempts backoff maxBackoff) :
    let most := (max attempts.toInt 1).toNat
    (∀ j, x.Settles j → j ≤ most → (∀ i, 1 ≤ i → i < j → x.interruption i = none) →
      x.Ends j (x.fault j) (j - 1)) ∧
    ((∀ j, x.Settles j → most < j) → (∀ i, 1 ≤ i → i < most → x.interruption i = none) →
      ∃ f, x.fault most = some f ∧ (most = 1 → x.Ends 1 (some f) 0) ∧
        (1 < most → ∃ g, x.Ends most (some g) (most - 1) ∧
          g = .wrapped ⟨.transmission, "retries exhausted", [("attempts", .number most)], true⟩ f ∧
          g.kind = .transmission ∧ g.isRetryable = true)) ∧
    (∀ i c, 1 ≤ i → i < most → (∀ k, 1 ≤ k → k ≤ i → x.Retries k) →
      (∀ k, 1 ≤ k → k < i → x.interruption k = none) → x.interruption i = some c →
      ∃ g, x.Ends i (some g) i ∧ g.kind = .cancelled ∧
        g = .wrap .cancelled "retry cancelled" c) ∧
    (∀ i, x.after i = .live → x.interruption i = none) ∧
    ∀ i c, 0 < x.pause i → (x.after i).fault? = some c → x.interruption i = some c := by
  intro most
  have hmost : x.policy.attempts = most := by
    rw [hpolicy]
    show max attempts.toInt.toNat 1 = (max attempts.toInt 1).toNat
    omega
  refine ⟨fun j hsettles hj hlive => ?_, fun hunsettled hlive => ?_,
    fun i c hi hlt hretries hlive hinterrupt => ?_, fun i h => interruption_of_live h,
    fun i c hpause h => interruption_of_fault hpause h⟩
  · obtain ⟨n, rfl⟩ := Nat.exists_eq_add_of_le' hsettles.pos
    exact ends_settled (by omega)
      (fun i hi hin => ⟨hsettles.before i hi (by omega), hlive i hi (by omega)⟩) hsettles.last
  · have hretries := retries_of_unsettled hunsettled
    have hpos : 1 ≤ most := by omega
    obtain ⟨f, hfault, hretryable⟩ := hretries most hpos (Nat.le_refl _)
    obtain ⟨n, hn⟩ := Nat.exists_eq_add_of_le' hpos
    have hends : x.Ends most (some (x.policy.exhausted f)) (most - 1) := by
      rw [hn] at hfault ⊢
      exact ends_exhausted (by omega)
        (fun i hi hin => ⟨hretries i hi (by omega), hlive i hi (by omega)⟩) hfault hretryable
    refine ⟨f, hfault, fun hone => ?_, fun hmore => ?_⟩
    · have hsame : x.policy.exhausted f = f := if_pos (hmost.trans hone)
      rwa [hsame, hone] at hends
    · rw [exhausted_eq hretryable (by omega), hmost] at hends
      exact ⟨_, hends, rfl, rfl, rfl⟩
  · obtain ⟨n, rfl⟩ := Nat.exists_eq_add_of_le' hi
    obtain ⟨f, hfault, hretryable⟩ := hretries (n + 1) hi (Nat.le_refl _)
    exact ⟨_, ends_interrupted (by omega)
      (fun k hk hkn => ⟨hretries k hk (by omega), hlive k hk (by omega)⟩) hfault hretryable
      hinterrupt, rfl, rfl⟩

/-- A producer without a leader fails with a hint. -/
def leaderless : Fault := .transmission true "no leader" (some (.signal (.kafkaCode 5)))

/-- A message that may be offered three times, and fails the first `failures` times; the caller is
cancelled during the pause after attempt `cut`. -/
def failing (failures cut : Nat) : Sending where
  policy := .make 3 1000000 5000000
  chance _ := {}
  context := .live
  topic := "events"
  message := [1, 2]
  fault i := if i ≤ failures then some leaderless else none
  after i := if i = cut then .cancelled else .live

/-- A message that is delivered at the third attempt, one whose attempts are used up, and one whose
caller is cancelled during the second pause. -/
theorem withRetry_follows_failing :
    (failing 2 0).Ends 3 none 2 ∧
      (∃ g, (failing 3 0).Ends 3 (some g) 2 ∧ g.kind = .transmission ∧ g.isRetryable = true) ∧
      ∃ g, (failing 3 2).Ends 2 (some g) 2 ∧ g.kind = .cancelled := by
  have hretries : ∀ failures cut i, i ≤ failures → (failing failures cut).Retries i :=
    fun failures cut i hi => ⟨leaderless, if_pos hi, rfl⟩
  have hafter : ∀ failures cut i, i ≠ cut → (failing failures cut).after i = .live :=
    fun failures cut i hi => if_neg hi
  obtain ⟨hsettled, -, -, hlive, -⟩ := withRetry_follows (failing 2 0) 3 1000000 5000000 rfl
  obtain ⟨-, hexhausted, -, hlive', -⟩ := withRetry_follows (failing 3 0) 3 1000000 5000000 rfl
  obtain ⟨-, -, hcut, hlive'', -⟩ := withRetry_follows (failing 3 2) 3 1000000 5000000 rfl
  refine ⟨?_, ?_, ?_⟩
  · have hlast : ¬ (failing 2 0).Retries 3 := fun ⟨f, hfault, _⟩ => nomatch hfault
    exact hsettled 3 ⟨by decide, fun i _ hi => hretries 2 0 i (by omega), hlast⟩ (by decide)
      fun i hi _ => hlive i (hafter 2 0 i (by omega))
  · have hunsettled : ∀ j, (failing 3 0).Settles j → 3 < j := by
      intro j hsettles
      by_contra hj
      exact hsettles.last (hretries 3 0 j (by omega))
    obtain ⟨f, -, -, hmore⟩ :=
      hexhausted hunsettled fun i hi _ => hlive' i (hafter 3 0 i (by omega))
    obtain ⟨g, hends, -, hkind, hretryable⟩ := hmore (by decide)
    exact ⟨g, hends, hkind, hretryable⟩
  · obtain ⟨g, hends, hkind, -⟩ := hcut 2 (.signal .cancelled) (by decide) (by decide)
      (fun k _ hk => hretries 3 2 k (by omega))
      (fun k _ hk => hlive'' k (hafter 3 2 k (by omega))) rfl
    exact ⟨g, hends, hkind⟩

end Sending

end DetectorStream.Delivery
