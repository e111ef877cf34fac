import DetectorStream.Files
import DetectorStream.Metrics.Basic
import DetectorStream.Path
import DetectorStream.Settings.Substitution
import DetectorStream.Source.Nev

/-!
# Trials

What tests against real brokers and on real machines are made of. A trial goes through, with or
without a complaint, or it is abandoned: because it failed, or because what it needs is not there.

* `Trial.kafkaBrokers`, `Trial.natsServer`: the brokers that the environment names.
* `Trial.sequence`: events that are easy to recognize.
* `Trial.writeSource`: a source file.
* `Trial.eventually`: wait for a condition.
* `Trial.performance`: compare throughput and memory with their targets.
-/

namespace DetectorStream.Trial

/-- How a trial ends. -/
inductive Outcome (α : Type)
  | done (value : α)
  /-- It went through, and something is wrong. -/
  | faulty (value : α)
  | failed
  | skipped
  | crashed
deriving Repr

/-- Trials against real brokers are skipped when time is short. -/
def integration (short : Bool) : Outcome Unit := if short then .skipped else .done ()

/-- The brokers that a variable names, separated by commas. -/
def kafkaBrokers (short : Bool) (env : Environment) : Outcome (List Text) :=
  let v := (env.lookup (Text.ofString "NEVENTGEN_TEST_KAFKA_BROKERS")).getD []
  if short || v.isEmpty then .skipped else .done (Text.split 0x2C v)

/-- The server that a variable names. -/
def natsServer (short : Bool) (env : Environment) : Outcome Text :=
  let v := (env.lookup (Text.ofString "NEVENTGEN_TEST_NATS_URL")).getD []
  if short || v.isEmpty then .skipped else .done v

/-- Event number `i` of a sequence. -/
def sequential (i : Nat) : Event := ⟨Int64.ofNat (i + 1), Int32.ofNat (1000 * (i + 1))⟩

/-- `n` events with detectors from 1 on and timestamps a thousand apart. -/
def sequence (n : Int) : Outcome Batch :=
  if n < 0 then .crashed else .done (.live ((Array.range n.toNat).map sequential))

/-- Write a batch to a file in a directory. -/
def writeSource (fs : Files) (directory name : Text) (b : Batch) : Files × Outcome (Text × Bytes) :=
  let path := Path.join [directory, name]
  match fs.openToWrite path true with
  | .error _ => (fs, .failed)
  | .ok (key, fs) =>
    match Nev.write b with
    | .error _ => (fs, .failed)
    | .ok bytes =>
      match fs.append key path bytes with
      | (fs, some _) => (fs, .failed)
      | (fs, none) => (fs, .done (path, bytes))

/-- The pause between two checks, in nanoseconds. -/
def checkInterval : Int := 10000000

/-- Check a condition again and again until it holds, and say how often it was checked. The
condition holds from check number `after` on, counted from zero; never if that is negative. -/
def eventually (after timeout : Int) : Outcome Nat :=
  if 0 ≤ after ∧ after * checkInterval < timeout then .done (after.toNat + 1) else .failed

/-- Compare what was sent in a span of time, and the growth of memory, with their targets. A target
that is not positive is none. -/
def performance (minThroughput : Float) (maxMemory : Int) (sent : Int) (duration : Duration)
    (growth : Int) : Outcome Unit :=
  let throughput := if 0 < duration then Throughput.rate sent duration else 0
  if (minThroughput > 0 && throughput < minThroughput) || (0 < maxMemory && maxMemory < growth) then
    .faulty ()
  else .done ()

end DetectorStream.Trial
