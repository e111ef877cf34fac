import DetectorStream.Number.Decimal

/-!
# Chunks

A **chunk** is a contiguous range of an event sequence. One pass over `total` events in steps of
`size` gives the ranges at offsets `0, size, 2 * size, …`, the last one possibly shorter; several
passes give the same ranges again with the sequence number running on.

* `Chunk.ofPlan`: the chunks of all passes, in the order in which they are sent.
* `chunkCount`: how many chunks one pass is said to have, in 64-bit arithmetic.
-/

namespace DetectorStream

/-- A contiguous range of the event sequence. -/
structure Chunk where
  /-- Counts the chunks of all passes from 0. -/
  seq : Nat
  pass : Nat
  offset : Nat
  length : Nat
deriving DecidableEq, Repr

namespace Chunk

/-- The offset after the last event of the chunk. -/
def stop (c : Chunk) : Nat := c.offset + c.length

/-- How many chunks of `size` events cover `total` events. -/
def perPass (total size : Nat) : Nat := (total + size - 1) / size

/-- Chunk `j` of pass `p`. -/
def nth (total size p j : Nat) : Chunk where
  seq := p * perPass total size + j
  pass := p
  offset := j * size
  length := min size (total - j * size)

/-- The chunks of one pass. -/
def ofPass (total size p : Nat) : List Chunk :=
  (List.range (perPass total size)).map (nth total size p)

/-- The chunks of all passes. -/
def ofPlan (total size passes : Nat) : List Chunk :=
  (List.range passes).flatMap (ofPass total size)

end Chunk

/-- The number of chunks one pass over `total` events is announced to have. The sum wraps, so the
announcement is right only while `total + size - 1` is below `2 ^ 63`. -/
def chunkCount (total size : Int64) : Int64 :=
  if total ≤ 0 || size ≤ 0 then 0 else (total + size - 1) / size

end DetectorStream
