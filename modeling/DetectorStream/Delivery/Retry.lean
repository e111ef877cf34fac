import DetectorStream.Delivery.Transmitter
import DetectorStream.Number.Binary64

/-!
# Retries

A failed send is repeated while its fault has a retry hint and attempts are left. Between two
attempts lies a pause that doubles from attempt to attempt up to a limit, spread by a quarter to
either side. A caller that is cancelled during the pause gives up. A pause that takes no time is over
when it begins: whether a caller who was cancelled before it gives up is left to chance.

* `Policy.make`: a policy with at least one attempt, whose limit is not below its first pause.
* `Policy.base`: the pause after an attempt before it is spread.
* `Policy.wait`: the pause after an attempt for a random number between zero and one.
* `Chance.interrupts`: what ends a pause early.
* `Transmitter.withRetry`: a transmitter that repeats failed sends.
-/

namespace DetectorStream.Delivery

/-- How often one message is offered, and how long the pauses are. -/
structure Policy where
  attempts : Nat
  backoff : Duration
  maxBackoff : Duration
deriving DecidableEq, Repr

namespace Policy

/-- A policy of at least one attempt whose longest pause is not below the first. -/
def make (attempts : Int64) (backoff maxBackoff : Duration) : Policy where
  attempts := max attempts.toInt.toNat 1
  backoff := backoff
  maxBackoff := if maxBackoff < backoff then backoff else maxBackoff

/-- Every message is offered once. -/
def once : Policy := ⟨1, 0, 0⟩

/-- A pause doubled up to `times` times while it is below the limit. Doubling wraps around. -/
def doubled (limit : Duration) : (times : Nat) → Duration → Duration
  | 0, d => d
  | n + 1, d => if d < limit then doubled limit n (d * 2) else d

/-- The pause after the given attempt, counted from one, before it is spread. -/
def base (p : Policy) (attempt : Int) : Duration :=
  let d := doubled p.maxBackoff (attempt - 1).toNat p.backoff
  if p.maxBackoff < d then p.maxBackoff else d

/-- The pause after an attempt, for the random number `unit` between zero and one. -/
def wait (p : Policy) (attempt : Int) (unit : Float) : Duration :=
  let d := Binary64.ofInt (p.base attempt).toInt
  let spread := d * 0.25
  Binary64.toWord (d - spread + unit * 2 * spread)

/-- The largest random number. -/
def greatest : Float := 1 - 1 / 9007199254740992

/-- Do all pauses after an attempt lie between `lo` and `hi`? -/
def staysWithin (p : Policy) (attempt : Int) (lo hi : Duration) : Bool :=
  lo ≤ p.wait attempt 0 && p.wait attempt greatest ≤ hi

/-- The fault of a message whose attempts are used up. -/
def exhausted (p : Policy) (f : Fault) : Fault :=
  if p.attempts = 1 then f
  else (Fault.wrap .transmission "retries exhausted" f).withDetail "attempts" (.number p.attempts)

end Policy

/-- What is left to chance in a pause. -/
structure Chance where
  /-- The number between zero and one that spreads the pause. -/
  unit : Float := 0.5
  /-- Is a caller found to be cancelled when the pause is over as soon as it begins? -/
  noticed : Bool := true

/-- What ends a pause early, if anything. -/
def Chance.interrupts (c : Chance) (wait : Duration) (ctx : Context) : Option Fault :=
  if ctx.fault?.isSome && !c.noticed && wait ≤ 0 then none
  else ctx.interrupts wait.toInt.toNat

/-- What is logged about an attempt that is going to be repeated. -/
def retryEntry (topic : Text) (attempt : Nat) (wait : Duration) (f : Fault) : Log.Entry :=
  ⟨.warn, "retrying send", [("topic", .text topic), ("attempt", .number attempt),
    ("backoff", .duration wait), ("error", .text f.text)]⟩

variable {σ : Type}

/-- Offer a message from the given attempt on, with `left` further attempts after it. `chance` decides
about the pause after each attempt. -/
def Transmitter.offer (t : Transmitter σ) (p : Policy) (chance : Nat → Chance) (topic : Text)
    (bs : Bytes) : (left attempt : Nat) → Context → σ → Outcome σ
  | left, attempt, ctx, s =>
    let o := t ctx topic bs s
    match o.fault with
    | none => o
    | some f =>
      if f.isRetryable then
        match left with
        | 0 => { o with fault := some (p.exhausted f) }
        | left + 1 =>
          let wait := p.wait attempt (chance attempt).unit
          let entries := o.entries ++ [retryEntry topic attempt wait f]
          match (chance attempt).interrupts wait o.context with
          | some c =>
            { o with
              fault := some (Fault.wrap .cancelled "retry cancelled" c)
              entries := entries }
          | none =>
            let later := offer t p chance topic bs left (attempt + 1) o.context o.state
            { later with entries := entries ++ later.entries }
      else o

/-- A transmitter that repeats failed sends as the policy says. -/
def Transmitter.withRetry (t : Transmitter σ) (p : Policy) (chance : Nat → Chance) : Transmitter σ :=
  fun ctx topic bs s => t.offer p chance topic bs (p.attempts - 1) 1 ctx s

end DetectorStream.Delivery
