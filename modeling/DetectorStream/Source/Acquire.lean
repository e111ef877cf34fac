import DetectorStream.Batch.Amplify
import DetectorStream.Log.Entry
import DetectorStream.Settings.Basic
import DetectorStream.Source.Load

/-!
# Acquiring the events of a run

The settings are checked first, then the source is loaded under a memory limit, and then it is
copied as often as the settings say. Each of the last two steps leaves a log entry when it succeeds.

* `Source.allocatorFor`: which limit holds.
* `Source.acquireFrom`: the batch of a run and the entries made on the way, with any openers.
* `Source.acquire`: the same, with the openers there are.
-/

namespace DetectorStream.Source

/-- The memory limit of a run: the one handed in, else that of the settings, else that of the
host. -/
def allocatorFor (given : Option Allocator) (host : Allocator) (s : Settings) : Allocator :=
  match given with
  | some a => a
  | none => if 0 < s.memoryLimit then ⟨s.memoryLimit⟩ else host

/-- The entry of a step of the acquisition. -/
def noted (message : Text) (fields : List (Text × Log.Value)) : Log.Entry :=
  ⟨.info, message, (Text.ofString "component", .text "source") :: fields⟩

/-- Copy a loaded batch as often as the settings say. -/
def copies (s : Settings) (a : Allocator) (b : Batch) : Except Stop Batch × List Log.Entry :=
  if s.multiplier ≤ 1 then (.ok b, [])
  else
    match b.amplify s.multiplier a s.timeOffset with
    | .error e => (.error e, [])
    | .ok more =>
      (.ok more, [noted "source amplified"
        [("multiplier", .number s.multiplier.toInt), ("events", .number more.size)]])

/-- The batch that the settings describe, and the entries made on the way; and the world after the
source was opened. -/
def acquireFrom {σ : Type} (openers : Openers σ) (given : Option Allocator) (host : Allocator)
    (s : Settings) (w : σ) : (Except Stop Batch × List Log.Entry) × σ :=
  match s.check with
  | .error f => ((.error (.fault f), []), w)
  | .ok () =>
    let a := allocatorFor given host s
    match loadFrom openers a s.source w with
    | (.error e, w) => ((.error e, []), w)
    | (.ok b, w) =>
      let (r, entries) := copies s a b
      ((r, noted "source loaded" [("source", .text s.source), ("events", .number b.size)] :: entries),
        w)

/-- The batch that the settings describe, and the entries made on the way. -/
def acquire (o : Origins) (given : Option Allocator) (host : Allocator) (s : Settings) :
    Except Stop Batch × List Log.Entry :=
  (acquireFrom o.openers given host s ()).1

end DetectorStream.Source
