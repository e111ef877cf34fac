import DetectorStream.Batch.Basic

/-!
# Amplification

Amplifying a batch of `n` events by a factor `f` gives `f` tiled copies: slot `k * n + i` holds the
detector id of event `i` and its timestamp moved by `k` times the time offset, in 32-bit
wrap-around arithmetic.
-/

namespace DetectorStream.Batch

/-- How far copy `k` is moved in time. -/
def shift (offset : Int32) (k : Nat) : Int32 := Int32.ofNat k * offset

/-- Event `e` as it stands in copy `k`. -/
def shifted (offset : Int32) (k : Nat) (e : Event) : Event :=
  ⟨e.detector, e.timestamp + shift offset k⟩

/-- `factor` copies of the events, copy `k` moved by `k` times the offset. -/
def tile (es : Array Event) (factor : Nat) (offset : Int32) : Array Event :=
  if es.isEmpty then #[] else (Array.range factor).flatMap fun k => es.map (shifted offset k)

/-- A new batch of `factor` tiled copies of `b`, allocated through `a`. -/
def amplify (b : Batch) (factor : Int64) (a : Allocator) (offset : Int32) : Except Stop Batch :=
  match b with
  | released => .error (.fault (.report .internal "amplify called on a released or nil batch"))
  | live es =>
    let f := factor.toInt
    if f < 1 then
      .error (.fault (.report .configuration
        ("amplification factor must be >= 1, got " ++ Decimal.ofInt f)))
    else if 0 < es.size ∧ (0x7FFFFFFFFFFFFFFF) / (es.size : Int) < f then
      .error (.fault (.report .allocation ("amplifying " ++ Decimal.ofNat es.size ++ " events by "
        ++ Decimal.ofInt f ++ " overflows addressable storage")))
    else
      match a.check (Int64.ofInt (es.size * f)) with
      | .error s => .error s
      | .ok () => .ok (live (tile es f.toNat offset))

end DetectorStream.Batch
