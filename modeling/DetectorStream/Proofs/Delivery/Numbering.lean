import DetectorStream.Delivery.Label
import DetectorStream.Delivery.Retry
import DetectorStream.Proofs.Number.Digits

/-!
# Numbered messages

A transmitter to a broker counts the messages that were delivered, and offers each message under the
number of those before it. A message that is offered again keeps its number, since only a delivery
moves the count. So whatever the broker answers, the number on an offer counts the sends that have
succeeded, and a transmitter that repeats its sends offers one message a bounded number of times in
a row, always under one number.

* `Offer.Numbered`: an offer has a number, `Numbered.unique`, and only one.
* `Sends`: what one send does to the count and to the offers.
* **`Transmitter.Numbers.withRetry`**: what a send with retries does.
* `Transmitter.Keeps.withRetry`: what every send keeps, a send with retries keeps.
* `Transmitter.Numbers.amid`: what goes on around a transmitter does not matter.
* **`Transmitter.Numbers.countsCalls`**: every offer has the number of the sends that have succeeded
  before it.
-/

namespace DetectorStream

/-- Numbers that are written alike are the same. -/
theorem Decimal.ofNat_injective : Function.Injective Decimal.ofNat := by
  intro m n h
  rw [← valueFrom_ofNat m, h, valueFrom_ofNat n]

namespace Delivery

/-! ## Offers -/

/-- What a broker is offered. -/
structure Offer where
  headers : List (Text × Text)
  message : Bytes
deriving DecidableEq

/-- **The offer has the number `n`**: it is the one value of its sequence header. -/
def Offer.Numbered (o : Offer) (n : Nat) : Prop :=
  ∀ v, (Text.ofString "seq", v) ∈ o.headers ↔ v = Decimal.ofNat n

theorem Offer.Numbered.unique {o : Offer} {m n : Nat} (h : o.Numbered m) (h' : o.Numbered n) :
    m = n :=
  Decimal.ofNat_injective ((h' _).mp ((h _).mpr rfl))

/-- No header of the trace passes for a number. -/
def Label.Plain (l : Label) : Prop := ∀ v, (Text.ofString "seq", v) ∉ l.trace

/-- The headers of message number `n` say so. -/
theorem Label.Plain.headers {l : Label} (h : l.Plain) (n : Nat) (v : Text) :
    (Text.ofString "seq", v) ∈ l.headers n ↔ v = Decimal.ofNat n := by
  have hrun : Text.ofString "seq" ≠ Text.ofString "run-id" := by decide
  have hformat : Text.ofString "seq" ≠ Text.ofString "format" := by decide
  have hcontent : Text.ofString "seq" ≠ Text.ofString "content-type" := by decide
  simp [Label.headers, hrun, hformat, hcontent, h v]

/-- **The offers are numbered from zero**, without a gap and without a repetition. -/
def Counted (offers : List Offer) : Prop :=
  ∀ i (h : i < offers.length), (offers[i]).Numbered i

theorem Counted.nil : Counted [] := fun _ h => absurd h (Nat.not_lt_zero _)

theorem Counted.concat {offers : List Offer} {o : Offer} (h : Counted offers)
    (ho : o.Numbered offers.length) : Counted (offers ++ [o]) := by
  intro i hi
  rw [List.length_append, List.length_singleton] at hi
  rcases Nat.lt_succ_iff_lt_or_eq.mp hi with hlt | rfl
  · rw [List.getElem_append_left hlt]
    exact h i hlt
  · rw [List.getElem_concat_length rfl]
    exact ho

/-! ## One send -/

variable {σ : Type}

/-- What a transmitter shows of its messages. -/
structure Numbering (σ : Type) where
  /-- The number of the next message. -/
  seq : σ → Nat
  /-- What the broker was offered, in order. -/
  offered : σ → List Offer
  /-- Nothing but the number passes for one. -/
  plain : σ → Prop

variable {v : Numbering σ} {t : Transmitter σ} {s s' s'' : σ} {most most' : Nat} {message : Bytes}
  {delivered : Bool}

/-- **A send offers its message a few times at most, under the number of the next message.** The
count moves if the message is delivered, and only then. -/
structure Sends (v : Numbering σ) (most : Nat) (message : Bytes) (s s' : σ) (delivered : Bool) :
    Prop where
  plain : v.plain s'
  seq_eq : v.seq s' = v.seq s + delivered.toNat
  offered_eq : ∃ tries, v.offered s' = v.offered s ++ tries ∧ tries.length ≤ most ∧
    ∀ o ∈ tries, o.Numbered (v.seq s) ∧ o.message = message

theorem Sends.mono (h : Sends v most message s s' delivered) (hle : most ≤ most') :
    Sends v most' message s s' delivered := by
  obtain ⟨tries, hoffered, hlength, hcarry⟩ := h.offered_eq
  exact ⟨h.plain, h.seq_eq, tries, hoffered, hlength.trans hle, hcarry⟩

/-- A message that was not delivered is sent again. -/
theorem Sends.again (h : Sends v most message s s' false)
    (h' : Sends v most' message s' s'' delivered) :
    Sends v (most + most') message s s'' delivered := by
  have hseq : v.seq s' = v.seq s := h.seq_eq
  obtain ⟨tries, hoffered, hlength, hcarry⟩ := h.offered_eq
  obtain ⟨tries', hoffered', hlength', hcarry'⟩ := h'.offered_eq
  rw [hseq] at hcarry'
  refine ⟨h'.plain, by rw [h'.seq_eq, hseq], tries ++ tries', ?_, ?_, ?_⟩
  · rw [hoffered', hoffered, List.append_assoc]
  · rw [List.length_append]
    omega
  · intro o ho
    rcases List.mem_append.mp ho with ho | ho
    · exact hcarry o ho
    · exact hcarry' o ho

/-- **The transmitter numbers its messages**, and offers each up to `most` times. -/
def Transmitter.Numbers (t : Transmitter σ) (v : Numbering σ) (most : Nat) : Prop :=
  ∀ ctx topic message s, v.plain s →
    Sends v most message s (t ctx topic message s).state (t ctx topic message s).fault.isNone

/-! ## Sending again -/

/-- **One attempt** ends the send as the transmitter did, or it failed and is followed by
another. -/
theorem offer_cases (t : Transmitter σ) (p : Policy) (chance : Nat → Chance) (topic : Text)
    (message : Bytes) (left attempt : Nat) (ctx : Context) (s : σ) :
    let o := t ctx topic message s
    let r := t.offer p chance topic message left attempt ctx s
    (r.state = o.state ∧ r.fault.isNone = o.fault.isNone) ∨
      (o.fault.isNone = false ∧ ∃ rest, left = rest + 1 ∧
        let later := t.offer p chance topic message rest (attempt + 1) o.context o.state
        r.state = later.state ∧ r.fault = later.fault) := by
  intro o r
  have hr : r = _ := Transmitter.offer.eq_def t p chance topic message left attempt ctx s
  simp only at hr
  split at hr
  · left
    rw [hr]
    exact ⟨rfl, rfl⟩
  · rename_i f hfault
    have hfailed : o.fault.isNone = false := by
      rw [show o.fault = some f from hfault, Option.isNone_some]
    split at hr
    · split at hr
      · left
        rw [hr, hfailed]
        exact ⟨rfl, rfl⟩
      · rename_i rest
        split at hr
        · left
          rw [hr, hfailed]
          exact ⟨rfl, rfl⟩
        · right
          rw [hr]
          exact ⟨hfailed, rest, rfl, rfl, rfl⟩
    · left
      rw [hr]
      exact ⟨rfl, rfl⟩

/-- What holds after one attempt, and after one that failed with what holds after the rest, holds
after a send with as many attempts as are left. -/
theorem offer_induction {motive : Nat → σ → σ → Bool → Prop} (topic : Text) (message : Bytes)
    (ends : ∀ n ctx s, motive (n + 1) s (t ctx topic message s).state
      (t ctx topic message s).fault.isNone)
    (again : ∀ n ctx s s' delivered, (t ctx topic message s).fault.isNone = false →
      motive n (t ctx topic message s).state s' delivered → motive (n + 1) s s' delivered)
    (p : Policy) (chance : Nat → Chance) (left attempt : Nat) (ctx : Context) (s : σ) :
    motive (left + 1) s (t.offer p chance topic message left attempt ctx s).state
      (t.offer p chance topic message left attempt ctx s).fault.isNone := by
  -- by the number of attempts that are left: the last one cannot be followed by another
  induction left generalizing attempt ctx s with
  | zero =>
    rcases offer_cases t p chance topic message 0 attempt ctx s with
      ⟨hstate, hfault⟩ | ⟨-, rest, hleft, -⟩
    · rw [hstate, hfault]
      exact ends 0 ctx s
    · cases hleft
  | succ left ih =>
    rcases offer_cases t p chance topic message (left + 1) attempt ctx s with
      ⟨hstate, hfault⟩ | ⟨hfailed, rest, hleft, hstate, hfault⟩
    · rw [hstate, hfault]
      exact ends (left + 1) ctx s
    · cases hleft
      rw [hstate, hfault]
      exact again (left + 1) ctx s _ _ hfailed (ih _ _ _)

/-- **With retries a message is offered as often as the policy says, in a row and under one
number.** -/
theorem Transmitter.Numbers.withRetry (h : t.Numbers v 1) (p : Policy) (chance : Nat → Chance) :
    (t.withRetry p chance).Numbers v (max p.attempts 1) := by
  intro ctx topic message s hs
  let motive (n : Nat) (s s' : σ) (delivered : Bool) : Prop :=
    v.plain s → Sends v n message s s' delivered
  have hends : ∀ n ctx s, motive (n + 1) s (t ctx topic message s).state
      (t ctx topic message s).fault.isNone :=
    fun n ctx s hs => (h ctx topic message s hs).mono (by omega)
  have hagain : ∀ n ctx s s' delivered, (t ctx topic message s).fault.isNone = false →
      motive n (t ctx topic message s).state s' delivered → motive (n + 1) s s' delivered := by
    intro n ctx s s' delivered hfailed hlater hs
    have hsend := h ctx topic message s hs
    rw [hfailed] at hsend
    exact (hsend.again (hlater hsend.plain)).mono (by omega)
  have hsends := offer_induction topic message hends hagain p chance (p.attempts - 1) 1 ctx s hs
  exact hsends.mono (by omega)

/-- Every send keeps what holds of the state. -/
def Transmitter.Keeps (t : Transmitter σ) (Inv : σ → Prop) : Prop :=
  ∀ ctx topic message s, Inv s → Inv (t ctx topic message s).state

/-- What every send keeps, a send with retries keeps. -/
theorem Transmitter.Keeps.withRetry {Inv : σ → Prop} (h : t.Keeps Inv) (p : Policy)
    (chance : Nat → Chance) : (t.withRetry p chance).Keeps Inv :=
  fun ctx topic message s =>
    offer_induction topic message (motive := fun _ s s' _ => Inv s → Inv s')
      (fun _ ctx s => h ctx topic message s)
      (fun _ ctx s _ _ _ hlater hs => hlater (h ctx topic message s hs))
      p chance (p.attempts - 1) 1 ctx s

/-! ## What goes on around a transmitter -/

/-- The same transmitter amid what goes on around it: before a send its state is changed from
outside, and while it lasts the context of the caller. -/
def Transmitter.amid (t : Transmitter σ) (around : σ → σ) (cut : σ → Context → Context) :
    Transmitter σ :=
  fun ctx topic message s =>
    let o := t ctx topic message (around s)
    { o with context := cut o.state o.context }

theorem Transmitter.Numbers.amid (h : t.Numbers v most) {around : σ → σ}
    (cut : σ → Context → Context)
    (hplain : ∀ s, v.plain s → v.plain (around s)) (hseq : ∀ s, v.seq (around s) = v.seq s)
    (hoffered : ∀ s, v.offered (around s) = v.offered s) : (t.amid around cut).Numbers v most := by
  intro ctx topic message s hs
  have hsends := h ctx topic message (around s) (hplain s hs)
  refine ⟨hsends.plain, hseq s ▸ hsends.seq_eq, ?_⟩
  rw [← hoffered s, ← hseq s]
  exact hsends.offered_eq

/-! ## Sends one after the other -/

/-- A call to a transmitter. -/
structure Call where
  context : Context
  topic : Text
  message : Bytes

/-- The state after some calls, and how many of them succeeded. -/
def Transmitter.serve (t : Transmitter σ) : List Call → σ → σ × Nat
  | [], s => (s, 0)
  | c :: calls, s =>
    let o := t c.context c.topic c.message s
    let r := Transmitter.serve t calls o.state
    (r.1, o.fault.isNone.toNat + r.2)

theorem Transmitter.Numbers.serve (h : t.Numbers v most) (calls : List Call) (hs : v.plain s) :
    v.plain (t.serve calls s).1 ∧ v.seq (t.serve calls s).1 = v.seq s + (t.serve calls s).2 := by
  induction calls generalizing s with
  | nil => exact ⟨hs, rfl⟩
  | cons c calls ih =>
    have hsends := h c.context c.topic c.message s hs
    obtain ⟨hplain, hseq⟩ := ih hsends.plain
    refine ⟨hplain, ?_⟩
    rw [hsends.seq_eq, Nat.add_assoc] at hseq
    exact hseq

/-- **Every offer has the number of the calls that have succeeded before it**, if the first call
finds the count at zero. -/
def Transmitter.CountsCalls (t : Transmitter σ) (v : Numbering σ) (most : Nat) : Prop :=
  ∀ s, v.plain s → v.seq s = 0 → ∀ (calls : List Call) (c : Call),
    ∃ tries, v.offered (t c.context c.topic c.message (t.serve calls s).1).state =
        v.offered (t.serve calls s).1 ++ tries ∧
      tries.length ≤ most ∧ ∀ o ∈ tries, o.Numbered (t.serve calls s).2 ∧ o.message = c.message

theorem Transmitter.Numbers.countsCalls (h : t.Numbers v most) : t.CountsCalls v most := by
  intro s hs hfresh calls c
  obtain ⟨hplain, hseq⟩ := h.serve calls hs
  rw [hfresh, Nat.zero_add] at hseq
  have hsends := (h c.context c.topic c.message _ hplain).offered_eq
  rwa [hseq] at hsends

end Delivery

end DetectorStream
