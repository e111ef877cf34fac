import DetectorStream.Proofs.Source.Synthetic

/-!
# Synthetic events keep to their pulses

Synthesizing counts in words: the step in time is drawn as a word of thirty-two bits, the time is
kept in sixty-four and reduced by the period, and the detector is one more than what is drawn. As
long as numbers are drawn below their bounds, no bound is ever zero or negative, nothing overflows,
and from event to event the time moves on by less than a step or wraps once, at any period and any
number of detectors.

* `Draws.InRange`, `Generator.draws_inRange`: numbers are drawn below a bound that is positive.
* `Synth.Stream.next?`, `Synth.synthesizeInWords`: the same sequence in words, which crashes when it
  asks for a number below a bound that is not positive.
* `Synth.Stream.next?_ofState`: a step in words is the one in exact numbers.
* `Synth.Advances`, `Synth.InPulse`, `Synth.Pulses`: how time moves on, and what holds of each event
  and of all.
* `Synth.State.next_spec`: what holds of the next event.
* **`Synth.synthesize_pulses`**: synthesizing in words is synthesizing, and its events keep to their
  pulses.
-/

namespace DetectorStream

/-! ## Numbers below a bound -/

section Draws

variable {τ : Type}

/-- **Numbers are drawn below their bound** when it is positive and a word. -/
structure Draws.InRange (d : Draws τ) : Prop where
  below31 : ∀ k s, 0 < k → k < 2 ^ 31 → (d.below31 k s).1 < k
  below63 : ∀ k s, 0 < k → k < 2 ^ 63 → (d.below63 k s).1 < k

theorem Generator.below_lt (draw : Generator → Nat × Generator) (size : Nat) {n : Nat} (hn : 0 < n)
    (g : Generator) : (Generator.below draw size n g).1 < n := by
  unfold Generator.below
  split <;> exact Nat.mod_lt _ hn

/-- The generator draws below any bound that is positive. -/
theorem Generator.draws_inRange : Generator.draws.InRange where
  below31 _ g hk _ := Generator.below_lt _ _ hk g
  below63 _ g hk _ := Generator.below_lt _ _ hk g

/-- A number below a word of thirty-two bits; asking for one below a word that is not positive is a
crash. -/
def Draws.below31? (d : Draws τ) (k : Int32) (s : τ) : Option (Int32 × τ) :=
  if 0 < k then some ((d.below31 k.toInt.toNat s).map Int32.ofNat id) else none

/-- The same for a word of sixty-four bits. -/
def Draws.below63? (d : Draws τ) (k : Int64) (s : τ) : Option (Int64 × τ) :=
  if 0 < k then some ((d.below63 k.toInt.toNat s).map Int64.ofNat id) else none

end Draws

namespace Synth

variable {τ : Type} {d : Draws τ} {p : Params}

/-! ## The sequence in words -/

/-- The bound of one step in time, in words. -/
def Params.stepWord (p : Params) : Int32 :=
  let step := p.period / 64
  if step < 1 then 1 else step

/-- The state between two events, in words. -/
structure Stream (τ : Type) where
  source : τ
  time : Int64

namespace Stream

/-- The next event; `none` is a crash. -/
def next? (d : Draws τ) (p : Params) (s : Stream τ) : Option (Event × Stream τ) := do
  let (step, source) ← d.below31? p.stepWord s.source
  let time := (s.time + step.toInt64) % p.period.toInt64
  let (i, source) ← d.below63? p.detectors source
  return (⟨1 + i, time.toInt32⟩, ⟨source, time⟩)

/-- The next `n` events; `none` is a crash. -/
def events? (d : Draws τ) (p : Params) : (n : Nat) → Stream τ → Option (List Event)
  | 0, _ => some []
  | n + 1, s => do
    let (e, s) ← s.next? d p
    let es ← events? d p n s
    return e :: es

/-- The state before the first event. -/
def start (d : Draws τ) (p : Params) : Stream τ := ⟨d.seed p.seed, 0⟩

end Stream

/-- The batch for the given parameters, counted in words. -/
def synthesizeInWords (d : Draws τ) (p : Params) (a : Allocator) : Except Stop Batch :=
  let p := p.normalize
  match a.check p.events with
  | .error e => .error e
  | .ok () =>
    match Stream.events? d p p.events.toInt.toNat (Stream.start d p) with
    | some es => .ok (.live es.toArray)
    | none => .error .crash

/-! ## Parameters in range -/

/-- The parameters that are used are in range. -/
theorem Params.normalize_inRange (p : Params) : p.normalize.InRange where
  events := p.normalize_events_nonneg
  detectors := by
    unfold Params.normalize
    simp only
    split_ifs with hdetectors
    · decide
    · rw [Int64.le_iff_toInt_le] at hdetectors
      exact Int.not_le.mp hdetectors
  period := by
    unfold Params.normalize
    simp only
    split_ifs with hperiod
    · decide
    · rw [Int32.le_iff_toInt_le] at hperiod
      exact Int.not_le.mp hperiod

/-- The bound of a step is the same word and number. -/
theorem Params.InRange.toInt_stepWord (h : p.InRange) : p.stepWord.toInt = p.step := by
  have hperiod := h.period
  have hdiv : (p.period / 64).toInt = p.period.toInt / 64 := by
    rw [Int32.toInt_div_of_ne_right _ _ (by decide), Int.tdiv_eq_ediv_of_nonneg (by omega)]
    rfl
  have hone : (1 : Int32).toInt = 1 := rfl
  unfold Params.stepWord Params.step
  simp only
  split_ifs with hsmall
  · rw [Int32.lt_iff_toInt_lt, hdiv, hone] at hsmall
    rw [hone]
    omega
  · rw [Int32.lt_iff_toInt_lt, hdiv, hone] at hsmall
    rw [hdiv]
    omega

theorem Params.step_pos (p : Params) : 0 < p.step := by
  unfold Params.step
  omega

/-! ## One event -/

/-- **The time moves on**: by a step, or by a step and back by one period. -/
def Advances (p : Params) (old new : Int) : Prop :=
  ∃ step : Int, 0 ≤ step ∧ step < max 1 (p.period.toInt / 64) ∧
    (old + step < p.period.toInt ∧ new = old + step ∨
      p.period.toInt ≤ old + step ∧ new = old + step - p.period.toInt)

/-- **An event has one of the detectors, and a time within the period.** -/
structure InPulse (p : Params) (e : Event) : Prop where
  detector_pos : 1 ≤ e.detector.toInt
  detector_le : e.detector.toInt ≤ p.detectors.toInt
  time_nonneg : 0 ≤ e.timestamp.toInt
  time_lt : e.timestamp.toInt < p.period.toInt

section Event

variable {t : State τ}

/-- The step that is drawn. -/
theorem Params.InRange.draw_lt (h : p.InRange) (hd : d.InRange) (s : τ) :
    (d.below31 p.step s).1 < p.step ∧ (p.step : Int) = max 1 (p.period.toInt / 64) := by
  have hperiod := h.period
  have hlt := p.period.toInt_lt
  have hstep : (p.step : Int) = max 1 (p.period.toInt / 64) := by
    unfold Params.step
    omega
  exact ⟨hd.below31 _ s p.step_pos (by omega), hstep⟩

/-- A detector is one more than what is drawn, and does not overflow. -/
theorem toInt_detector {i : Nat} (hi : i < p.detectors.toInt.toNat) :
    (1 + Int64.ofNat i).toInt = 1 + i := by
  have hlt := p.detectors.toInt_lt
  have hsum : 1 + Int64.ofNat i = Int64.ofNat (1 + i) := (Int64.ofNat_add 1 i).symm
  rw [hsum, Int64.toInt_ofNat_of_lt (by omega)]
  omega

/-- **The next event is within its pulse, and the time moves on to it.** -/
theorem State.next_spec (hd : d.InRange) (h : p.InRange) (ht : (t.time : Int) < p.period.toInt) :
    InPulse p (t.next d p).1 ∧ (t.next d p).1.timestamp.toInt = (t.next d p).2.time ∧
      Advances p t.time (t.next d p).2.time ∧
      ((t.next d p).2.time : Int) < p.period.toInt := by
  obtain ⟨hdraw, hstep⟩ := h.draw_lt hd t.source
  have hperiod := h.period
  have hlt := p.period.toInt_lt
  have hdetectors := h.detectors
  have hdetector := hd.below63 p.detectors.toInt.toNat (d.below31 p.step t.source).2 (by omega)
    (by have := p.detectors.toInt_lt; omega)
  have hpulse : (t.next d p).2.time =
      (t.time + (d.below31 p.step t.source).1) % p.period.toInt.toNat := rfl
  have htime : ((t.next d p).2.time : Int) < p.period.toInt := by
    have := Nat.mod_lt (t.time + (d.below31 p.step t.source).1)
      (show 0 < p.period.toInt.toNat by omega)
    omega
  have hstamp : (t.next d p).1.timestamp.toInt = (t.next d p).2.time := by
    show (Int32.ofNat (t.next d p).2.time).toInt = _
    rw [Int32.toInt_ofNat_of_lt (by omega)]
  have hid : (t.next d p).1.detector.toInt =
      1 + (d.below63 p.detectors.toInt.toNat (d.below31 p.step t.source).2).1 :=
    toInt_detector hdetector
  refine ⟨⟨by omega, by omega, by omega, by omega⟩, hstamp, ?_, htime⟩
  refine ⟨(d.below31 p.step t.source).1, by omega, by omega, ?_⟩
  -- a step is at most a period, so the remainder takes off one period at most
  rw [hpulse]
  by_cases hwrap : t.time + (d.below31 p.step t.source).1 < p.period.toInt.toNat
  · rw [Nat.mod_eq_of_lt hwrap]
    exact Or.inl ⟨by omega, by omega⟩
  · rw [Nat.mod_eq_sub_mod (by omega), Nat.mod_eq_of_lt (by omega)]
    exact Or.inr ⟨by omega, by omega⟩

end Event

/-! ## Words and numbers -/

namespace Stream

variable {t : State τ}

/-- A state in words. -/
def ofState (t : State τ) : Stream τ := ⟨t.source, Int64.ofNat t.time⟩

/-- The time in words is the time in numbers: neither the sum nor what is left of it overflows. -/
theorem time_eq (h : p.InRange) {time v : Nat} (htime : (time : Int) < p.period.toInt)
    (hv : v < 2 ^ 31) :
    (Int64.ofNat time + (Int32.ofNat v).toInt64) % p.period.toInt64 =
      Int64.ofNat ((time + v) % p.period.toInt.toNat) := by
  have hperiod := h.period
  have hlt := p.period.toInt_lt
  have hmod := Nat.mod_lt (time + v) (show 0 < p.period.toInt.toNat by omega)
  have hword : (Int32.ofNat v).toInt64 = Int64.ofNat v := by
    rw [← Int64.toInt_inj, Int32.toInt_toInt64, Int32.toInt_ofNat_of_lt hv,
      Int64.toInt_ofNat_of_lt (by omega)]
  rw [hword, ← Int64.ofNat_add, ← Int64.toInt_inj, Int64.toInt_mod, Int32.toInt_toInt64,
    Int64.toInt_ofNat_of_lt (by omega), Int64.toInt_ofNat_of_lt (by omega),
    Int.tmod_eq_emod_of_nonneg (by omega), Int.natCast_emod, Int.toNat_of_nonneg (by omega)]

/-- **An event in words is the one in numbers**: no bound is asked for that is not positive. -/
theorem next?_ofState (hd : d.InRange) (h : p.InRange) (ht : (t.time : Int) < p.period.toInt) :
    (ofState t).next? d p = some ((t.next d p).1, ofState (t.next d p).2) := by
  obtain ⟨hdraw, -⟩ := h.draw_lt hd t.source
  have hstep := h.toInt_stepWord
  have hstepPos : 0 < p.stepWord := by
    rw [Int32.lt_iff_toInt_lt, hstep]
    exact Int.natCast_pos.mpr p.step_pos
  have hdetectorsPos : 0 < p.detectors := by
    rw [Int64.lt_iff_toInt_lt]
    exact h.detectors
  have hstepLt := p.stepWord.toInt_lt
  rw [hstep] at hstepLt
  have htime := time_eq h ht (v := (d.below31 p.step t.source).1) (by omega)
  unfold next? Draws.below31? Draws.below63? ofState
  simp only [if_pos hstepPos, if_pos hdetectorsPos, hstep, Int.toNat_natCast, Option.bind_eq_bind,
    Option.bind_some, Prod.map, id, htime, Int64.toInt32_ofNat']
  rfl

end Stream

/-! ## The whole sequence -/

/-- The next `n` events. -/
def drawn (d : Draws τ) (p : Params) : (n : Nat) → State τ → List Event
  | 0, _ => []
  | n + 1, t => (t.next d p).1 :: drawn d p n (t.next d p).2

/-- **Events keep to their pulses**: each is within its own, and the time moves on from `old` to the
first and from each to the next. -/
structure Pulses (p : Params) (old : Int) (es : List Event) : Prop where
  within : ∀ e ∈ es, InPulse p e
  first : ∀ e, es[0]? = some e → Advances p old e.timestamp.toInt
  next : ∀ i e e', es[i]? = some e → es[i + 1]? = some e' →
    Advances p e.timestamp.toInt e'.timestamp.toInt

theorem Pulses.nil (p : Params) (old : Int) : Pulses p old [] := ⟨nofun, nofun, nofun⟩

theorem Pulses.cons {old : Int} {e : Event} {es : List Event} (he : InPulse p e)
    (hfirst : Advances p old e.timestamp.toInt) (h : Pulses p e.timestamp.toInt es) :
    Pulses p old (e :: es) where
  within := List.forall_mem_cons.mpr ⟨he, h.within⟩
  first := by
    rintro _ ⟨⟩
    exact hfirst
  next := by
    intro i c c' hc hc'
    cases i with
    | zero =>
      cases hc
      exact h.first c' hc'
    | succ i => exact h.next i c c' hc hc'

theorem length_drawn (n : Nat) (t : State τ) : (drawn d p n t).length = n := by
  induction n generalizing t with
  | zero => rfl
  | succ n ih => exact congrArg (· + 1) (ih _)

theorem toList_drawOnto (n : Nat) (t : State τ) (acc : Array Event) :
    (drawOnto d p id n t acc).toList = acc.toList ++ drawn d p n t := by
  induction n generalizing t acc with
  | zero => exact (List.append_nil _).symm
  | succ n ih =>
    rw [drawOnto]
    simp only
    rw [ih, Array.toList_push, List.append_assoc]
    rfl

/-- The batch of the events that are drawn. -/
theorem replay_eq_drawn (d : Draws τ) (p : Params) :
    replay d p id = (drawn d p p.events.toInt.toNat (State.start d p)).toArray :=
  Array.ext' (toList_drawOnto _ _ #[])

/-- However many events are drawn, they keep to their pulses. -/
theorem drawn_pulses (hd : d.InRange) (h : p.InRange) (n : Nat) {t : State τ}
    (ht : (t.time : Int) < p.period.toInt) : Pulses p t.time (drawn d p n t) := by
  induction n generalizing t with
  | zero => exact .nil p t.time
  | succ n ih =>
    obtain ⟨hwithin, hstamp, hadvances, htime⟩ := State.next_spec hd h ht
    rw [← hstamp] at hadvances
    have hrest := ih htime
    rw [← hstamp] at hrest
    exact .cons hwithin hadvances hrest

/-- However many events are drawn in words, they are those drawn in numbers. -/
theorem Stream.events?_ofState (hd : d.InRange) (h : p.InRange) (n : Nat) {t : State τ}
    (ht : (t.time : Int) < p.period.toInt) :
    Stream.events? d p n (.ofState t) = some (drawn d p n t) := by
  induction n generalizing t with
  | zero => rfl
  | succ n ih =>
    obtain ⟨-, -, -, htime⟩ := State.next_spec hd h ht
    rw [events?, next?_ofState hd h ht]
    simp only [Option.bind_eq_bind, Option.bind_some, ih htime]
    rfl

/-- **Synthesizing in words is synthesizing, and its events keep to their pulses.** However many
events are drawn, no number is asked for below a bound that is not positive; each event has one of
the detectors and a time within the period, and the time moves on by less than a step or wraps
once. -/
theorem synthesize_pulses (hd : d.InRange) (p : Params) (a : Allocator) :
    p.normalize.InRange ∧
    (∀ n, ∃ es, Stream.events? d p.normalize n (Stream.start d p.normalize) = some es ∧
      es.length = n ∧ Pulses p.normalize 0 es) ∧
    synthesizeInWords d p a = synthesizeBy d p a ∧
    ∀ b, synthesizeBy d p a = .ok b →
      (b.size : Int) = p.normalize.events.toInt ∧ Pulses p.normalize 0 b.events.toList := by
  have h := p.normalize_inRange
  have hstart : ((State.start d p.normalize).time : Int) < p.normalize.period.toInt := h.period
  have hpulses : ∀ n, Pulses p.normalize 0 (drawn d p.normalize n (State.start d p.normalize)) :=
    fun n => drawn_pulses hd h n hstart
  have hevents : ∀ n, Stream.events? d p.normalize n (Stream.start d p.normalize) =
      some (drawn d p.normalize n (State.start d p.normalize)) := fun n =>
    Stream.events?_ofState hd h n hstart
  refine ⟨h, fun n => ⟨_, hevents n, length_drawn n _, hpulses n⟩, ?_, fun b hb => ?_⟩
  · unfold synthesizeInWords synthesizeBy
    cases hcheck : a.check p.normalize.events with
    | error e => simp only [hcheck]
    | ok _ => simp only [hcheck, hevents, replay_eq_drawn]
  · obtain ⟨-, -, rfl⟩ := (synthesizeBy_answers d p a).of_ok hb
    refine ⟨?_, ?_⟩
    · show ((replay d p.normalize id).size : Int) = _
      rw [size_replay, Int.toNat_of_nonneg h.events]
    · show Pulses p.normalize 0 (replay d p.normalize id).toList
      rw [replay_eq_drawn]
      exact hpulses _

/-- So it is for the generator, at the longest period and with the most detectors. -/
theorem synthesize_pulses_widest :
    Generator.draws.InRange ∧
      ∃ b, synthesizeBy Generator.draws ⟨3, 0x7FFFFFFFFFFFFFFF, -5, 0x7FFFFFFF⟩ .unlimited = .ok b ∧
        (b.size : Int) = 3 ∧
        Pulses ⟨3, 0x7FFFFFFFFFFFFFFF, -5, 0x7FFFFFFF⟩ 0 b.events.toList := by
  obtain ⟨-, -, -, hbatch⟩ := synthesize_pulses Generator.draws_inRange
    ⟨3, 0x7FFFFFFFFFFFFFFF, -5, 0x7FFFFFFF⟩ .unlimited
  have hok : synthesizeBy Generator.draws ⟨3, 0x7FFFFFFFFFFFFFFF, -5, 0x7FFFFFFF⟩ .unlimited =
      .ok (.live (replay Generator.draws ⟨3, 0x7FFFFFFFFFFFFFFF, -5, 0x7FFFFFFF⟩ id)) := rfl
  exact ⟨Generator.draws_inRange, _, hok, hbatch _ hok⟩

end Synth

end DetectorStream
