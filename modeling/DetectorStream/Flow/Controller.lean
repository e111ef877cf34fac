import DetectorStream.Context
import DetectorStream.Duration
import DetectorStream.Flow.Chunk

/-!
# The flow controller

The controller hands out the chunks of an event sequence one at a time and paces them: a fixed
delay before every chunk but the first, a cap on chunks per second, a number of passes and a budget
of time.

    idle ──▶ streaming ──▶ draining ──▶ done
                 │             │
                 └──▶ faulted ◀┘

It drains once it has handed out a last chunk that is shorter than the others. `done` and `faulted`
are final.

* `Controller.make`: an idle controller, or the complaint about its parameters.
* `Controller.next`: the next chunk, given how the waits before it end and what the clock shows.
* `Controller.waits`: how the waits end in a given context.
* `Controller.fail`: record a failure of the receiver.
-/

namespace DetectorStream

/-- A clock that moves on by `step` nanoseconds before each reading. -/
structure Clock where
  now : Int
  step : Int := 0
deriving DecidableEq, Repr

namespace Clock

/-- Read the clock. -/
def read (c : Clock) : Int × Clock := (c.now + c.step, { c with now := c.now + c.step })

/-- Let time pass. -/
def advance (c : Clock) (nanos : Int) : Clock := { c with now := c.now + nanos }

end Clock

namespace Flow

/-- What a controller is doing. -/
inductive State
  | idle
  | streaming
  | draining
  | done
  | faulted
deriving DecidableEq, Repr

namespace State

/-- The name of a state. -/
def name : State → String
  | idle => "idle"
  | streaming => "streaming"
  | draining => "draining"
  | done => "done"
  | faulted => "faulted"

/-- The states in the order of their numbers. -/
def all : List State := [idle, streaming, draining, done, faulted]

/-- The name of the state with the given number. -/
def nameOfNumber (n : Int) : String :=
  if n < 0 then "unknown" else ((all[n.toNat]?).map name).getD "unknown"

end State

/-- The pacing parameters. -/
structure Params where
  chunkSize : Int64
  delay : Duration := 0
  /-- Chunks per second; no cap unless it is positive. -/
  rate : Float := 0
  passes : Int64 := 1
  /-- The budget of time; none unless it is positive. -/
  budget : Duration := 0

/-- How the waits before a chunk end: `none` when the wait runs out as planned. -/
structure Waits where
  pacing : Option Fault := none
  limiter : Option Fault := none

/-- What `next` gives. -/
inductive Next
  | chunk (c : Chunk)
  | finished
  | failed (f : Fault)
deriving DecidableEq, Repr

/-- The controller of one event sequence. -/
structure Controller where
  total : Nat
  chunkSize : Nat
  passes : Nat
  delay : Duration
  rate : Float
  budget : Duration
  state : State := .idle
  pass : Nat := 0
  offset : Nat := 0
  emitted : Nat := 0
  fault : Option Fault := none
  deadline : Option Int := none

namespace Controller

/-- An idle controller for `total` events. Fewer than one pass counts as one. -/
def make (total : Int64) (p : Params) : Except Fault Controller :=
  if total < 0 then
    .error (.report .configuration ("negative event total " ++ Decimal.ofInt total.toInt))
  else if p.chunkSize < 1 then
    .error (.report .configuration
      ("chunk size must be positive, got " ++ Decimal.ofInt p.chunkSize.toInt))
  else
    .ok { total := total.toInt.toNat
          chunkSize := p.chunkSize.toInt.toNat
          passes := max p.passes.toInt.toNat 1
          delay := p.delay
          rate := p.rate
          budget := p.budget }

/-- Record a failure. Only a streaming or draining controller takes it; the flag tells whether it
did. -/
def fail (c : Controller) (f : Fault) : Controller × Bool :=
  match c.state with
  | .streaming | .draining => ({ c with state := .faulted, fault := some f }, true)
  | _ => (c, false)

/-- Hand out the next range. -/
def emit (c : Controller) : Controller × Chunk :=
  let length := min c.chunkSize (c.total - c.offset)
  let stop := c.offset + length
  let pass := if stop = c.total then c.pass + 1 else c.pass
  ({ c with
      emitted := c.emitted + 1
      offset := if stop = c.total then 0 else stop
      pass := pass
      state := if c.passes ≤ pass ∧ length < c.chunkSize then .draining else c.state },
    { seq := c.emitted, pass := c.pass, offset := c.offset, length := length })

/-- The part of `next` after the pacing delay: the rate limiter, the budget, the chunk. -/
def afterPacing (c : Controller) (limiter : Option Fault) (clock : Clock) :
    Controller × Clock × Next :=
  match limiter with
  | some f =>
    let f := Fault.wrap .cancelled "rate limiter wait interrupted" f
    ((c.fail f).1, clock, .failed f)
  | none =>
    match c.deadline with
    | none =>
      let (c, chunk) := c.emit
      (c, clock, .chunk chunk)
    | some deadline =>
      let (now, clock) := clock.read
      if deadline ≤ now then ({ c with state := .done }, clock, .finished)
      else
        let (c, chunk) := c.emit
        (c, clock, .chunk chunk)

/-- The next chunk. -/
def next (c : Controller) (w : Waits) (clock : Clock) : Controller × Clock × Next :=
  match c.state with
  | .done => (c, clock, .finished)
  | .faulted => (c, clock, match c.fault with | some f => .failed f | none => .finished)
  | .idle =>
    let (c, clock) :=
      if 0 < c.budget then
        let (now, clock) := clock.read
        ({ c with deadline := some (now + c.budget.toInt) }, clock)
      else (c, clock)
    if c.total = 0 then ({ c with state := .done }, clock, .finished)
    else afterPacing { c with state := .streaming } w.limiter clock
  | .streaming | .draining =>
    if c.passes ≤ c.pass then ({ c with state := .done }, clock, .finished)
    else
      match w.pacing with
      | some f => ((c.fail f).1, clock, .failed f)
      | none => afterPacing c w.limiter clock

/-! ## Waiting -/

/-- How the delay before a chunk ends in the context `ctx`. -/
def pacing (c : Controller) (ctx : Context) : Option Fault :=
  if c.delay ≤ 0 then
    ctx.fault?.map (Fault.wrap .cancelled "stream cancelled")
  else
    (ctx.interrupts c.delay.toInt.toNat).map
      (Fault.wrap .cancelled "stream cancelled during pacing delay")

/-- Does the limiter let a chunk pass before the deadline of a context that ends soon? The first
chunk needs no wait; later ones need the time between two chunks, of which the delay has already
passed. -/
def limiterFits (c : Controller) : Bool :=
  if c.state == .idle then true
  else
    let delay := Binary64.ofInt (max c.delay.toInt 0)
    let wait := 1000000000 / c.rate - delay
    wait ≤ 0 || wait + delay ≤ Binary64.ofInt Context.soonNanos

/-- How the wait for the rate limiter ends in the context `ctx`. -/
def limiter (c : Controller) (ctx : Context) : Option Fault :=
  if c.rate > 0 then
    match ctx with
    | .soon => if c.limiterFits then none else some .withheld
    | _ => ctx.fault?
  else none

/-- How the waits before the next chunk end in the context `ctx`. -/
def waits (c : Controller) (ctx : Context) : Waits := ⟨c.pacing ctx, c.limiter ctx⟩

/-- Up to `n` calls of `next` in a live context, ending with the first that gives no chunk. -/
def drain : (n : Nat) → Controller → Clock → Controller × Clock × List (Controller × Next)
  | 0, c, clock => (c, clock, [])
  | n + 1, c, clock =>
    let (c, clock, r) := c.next (c.waits .live) clock
    match r with
    | .chunk _ =>
      let (c', clock', rest) := drain n c clock
      (c', clock', (c, r) :: rest)
    | _ => (c, clock, [(c, r)])

end Controller

end Flow

end DetectorStream
