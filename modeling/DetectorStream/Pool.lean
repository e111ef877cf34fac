/-!
# Object pools

A pool hands out objects and takes them back. Objects that come back go into a store, from which
they are handed out again; when the store hands back none, the pool has one built. The store is
free: it may lose any of its objects at any time, even at once, and it may hand back any of them, or
none. What it does is therefore given with each request.

Objects are told apart by a number, in the order in which they were built, and they hold contents
that whoever has them may change.

* `Pool.get`, `Pool.put`, `Pool.discard`: the requests, with the statistics that the pool keeps.
* `Pool.lose`: what the store does on its own.
* `Lending`, `Lending.run`: a pool together with the objects that are out, under any events.
-/

namespace DetectorStream

/-- What a pool is made with: the contents of the objects that are built, by number, and what is
done, if anything, to the contents of an object that comes back. -/
structure Pool.Maker (α : Type) where
  build : Nat → α
  reset? : Option (α → α)

/-- The state of a pool: the contents of all objects that were built, the objects in the store, and
the statistics, which are words. -/
structure Pool (α : Type) where
  maker : Pool.Maker α
  objects : List α := []
  stored : List Nat := []
  allocated : Int64 := 0
  inUse : Int64 := 0
  hits : Int64 := 0
  misses : Int64 := 0

namespace Pool

variable {α : Type}

/-- The contents of an object that comes back, as they are afterwards. -/
def Maker.cleaned (m : Maker α) (x : α) : α :=
  match m.reset? with
  | some reset => reset x
  | none => x

/-- Have an object built. -/
def build (p : Pool α) : Nat × Pool α :=
  (p.objects.length,
    { p with
      objects := p.objects ++ [p.maker.build p.objects.length]
      allocated := p.allocated + 1
      misses := p.misses + 1 })

/-- Ask the store for an object: it hands back the one at the place `found`, and where there is none
the pool has one built. -/
def fetch (p : Pool α) (found : Option Nat) : Nat × Pool α :=
  match found.bind fun k => p.stored[k]?.map fun i => (i, p.stored.eraseIdx k) with
  | some (i, rest) => (i, { p with stored := rest })
  | none => p.build

/-- Hand out an object. It was a hit if no miss was counted while the store was asked. -/
def get (p : Pool α) (found : Option Nat) : Nat × Pool α :=
  let (i, q) := p.fetch found
  let q := if q.misses = p.misses then { q with hits := q.hits + 1 } else q
  (i, { q with inUse := q.inUse + 1 })

/-- Take an object back for reuse. -/
def put (p : Pool α) (i : Nat) : Pool α :=
  { p with
    objects := p.objects.modify i p.maker.cleaned
    inUse := p.inUse - 1
    stored := i :: p.stored }

/-- Take an object back and leave it alone. -/
def discard (p : Pool α) (_ : Nat) : Pool α := { p with inUse := p.inUse - 1 }

/-- The store loses the object at the place `k`. -/
def lose (p : Pool α) (k : Nat) : Pool α := { p with stored := p.stored.eraseIdx k }

/-- Change the contents of an object. -/
def change (p : Pool α) (i : Nat) (f : α → α) : Pool α := { p with objects := p.objects.modify i f }

/-- What may happen to a pool and its objects. -/
inductive Event (α : Type)
  | get (found : Option Nat)
  | put (i : Nat)
  | discard (i : Nat)
  | lose (k : Nat)
  | change (i : Nat) (f : α → α)

/-- A pool and the objects that are out, the latest first. -/
structure Lending (α : Type) where
  pool : Pool α
  out : List Nat := []

namespace Lending

/-- A new pool, none of whose objects is out. -/
def new (m : Maker α) : Lending α := { pool := { maker := m } }

/-- One event. -/
def step (l : Lending α) : Event α → Lending α
  | .get found => ⟨(l.pool.get found).2, (l.pool.get found).1 :: l.out⟩
  | .put i => ⟨l.pool.put i, l.out.erase i⟩
  | .discard i => ⟨l.pool.discard i, l.out.erase i⟩
  | .lose k => ⟨l.pool.lose k, l.out⟩
  | .change i f => ⟨l.pool.change i f, l.out⟩

/-- Events one after the other. -/
def run (l : Lending α) (es : List (Event α)) : Lending α := es.foldl step l

end Lending

end Pool

end DetectorStream
