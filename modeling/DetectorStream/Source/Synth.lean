import DetectorStream.Batch.Basic
import DetectorStream.Generator
import DetectorStream.Source.Locator
import DetectorStream.Source.Nev

/-!
# Synthetic events

A reproducible pseudo-random event sequence: the time of flight advances by small random steps and
wraps at the period, and the detector is drawn anew for each event.

* `Synth.synthesize`: the batch for given parameters.
* `Synth.columns`: the octets of the same events in a nev image.
* `Synth.Params.ofLocator`: the parameters in the query of a locator.
-/

namespace DetectorStream.Synth

/-- What to synthesize. -/
structure Params where
  events : Int64 := 1000
  /-- Detector ids are drawn from 1 to this number. -/
  detectors : Int64 := 65536
  seed : Int64 := 1
  /-- The length of one pulse, in nanoseconds. -/
  period : Int32 := 71428571
deriving DecidableEq, Repr

/-- The parameters with the default in place of every value that is out of range. -/
def Params.normalize (p : Params) : Params where
  events := if p.events < 0 then 1000 else p.events
  detectors := if p.detectors ≤ 0 then 65536 else p.detectors
  seed := p.seed
  period := if p.period ≤ 0 then 71428571 else p.period

/-- The bound of one step in time: a sixty-fourth of the period, at least one. -/
def Params.step (p : Params) : Nat := max (p.period.toInt.toNat / 64) 1

/-! ## The sequence -/

section Sequence

variable {σ : Type} (d : Draws σ) (p : Params)

/-- The state between two events. -/
structure State (σ : Type) where
  source : σ
  time : Nat := 0

/-- The state before the first event. -/
def State.start : State σ := ⟨d.seed p.seed, 0⟩

/-- The next event. -/
def State.next (s : State σ) : Event × State σ :=
  let (step, source) := d.below31 p.step s.source
  let time := (s.time + step) % p.period.toInt.toNat
  let (i, source) := d.below63 p.detectors.toInt.toNat source
  (⟨1 + Int64.ofNat i, Int32.ofNat time⟩, ⟨source, time⟩)

/-- A part of each of the next `n` events, onto those already there. -/
def drawOnto {α : Type} (part : Event → α) : (n : Nat) → State σ → Array α → Array α
  | 0, _, acc => acc
  | n + 1, s, acc =>
    let (e, s) := s.next d p
    drawOnto part n s (acc.push (part e))

/-- A part of each event of normalized parameters, drawn from the seed on. -/
def replay {α : Type} (part : Event → α) : Array α :=
  drawOnto d p part p.events.toInt.toNat (State.start d p) #[]

/-- The batch for the given parameters, with the numbers of a given source. -/
def synthesizeBy (a : Allocator) : Except Stop Batch :=
  let p := p.normalize
  match a.check p.events with
  | .error e => .error e
  | .ok () => .ok (.live (replay d p id))

/-! ## As an image -/

/-- The octets of the columns. The ids come before all timestamps, so each column replays the
sequence from the seed. -/
def columns : Bytes :=
  Nev.columnBytes (replay d p Event.detector).toList (replay d p Event.timestamp).toList

end Sequence

/-- The batch for the given parameters. -/
def synthesize (p : Params) (a : Allocator) : Except Stop Batch :=
  synthesizeBy Generator.draws p a

/-! ## Parameters of a locator -/

/-- A parameter with the complaint about it and the range it must lie in. -/
def number (u : Locator) (key what : Text) (bits : Nat) (least : Option Int) :
    Except Fault (Option Int) :=
  let v := u.param key
  if v.isEmpty then .ok none
  else
    match Numeral.parseInt 10 bits v with
    | .ok n =>
      if least.any (n < ·) then
        .error (.report .malformedSource ("invalid synthetic " ++ what ++ " " ++ Text.quote v))
      else .ok (some n)
    | .error _ =>
      .error (.report .malformedSource ("invalid synthetic " ++ what ++ " " ++ Text.quote v))

/-- The parameters of a locator: those read before the first complaint, and the complaint. -/
def Params.ofLocator (u : Locator) : Params × Option Fault :=
  let p : Params := {}
  match number u "events" "event count" 64 (some 0) with
  | .error f => (p, some f)
  | .ok n =>
    let p := { p with events := (n.map Int64.ofInt).getD p.events }
    match number u "detectors" "detector count" 64 (some 1) with
    | .error f => (p, some f)
    | .ok n =>
      let p := { p with detectors := (n.map Int64.ofInt).getD p.detectors }
      match number u "seed" "seed" 64 none with
      | .error f => (p, some f)
      | .ok n =>
        let p := { p with seed := (n.map Int64.ofInt).getD p.seed }
        match number u "period" "period" 32 (some 1) with
        | .error f => (p, some f)
        | .ok n => ({ p with period := (n.map Int32.ofInt).getD p.period }, none)

end DetectorStream.Synth
