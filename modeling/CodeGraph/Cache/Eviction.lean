/-!
Which entries of a full cache go. Stale entries always do; of the fresh ones the coldest go first until the rest
fits. Moments are nanoseconds.
-/
namespace CodeGraph

/-- All that eviction asks of an entry. -/
structure EntryUse where
  key : String
  written : Int
  touched : Int
  hits : Nat
  deriving DecidableEq, Repr

def isStale (written maxAge now : Int) : Bool := now - written > maxAge

namespace EntryUse

/-- Seconds since the last touch, to the millisecond, shared among the hits. -/
def coldness (now : Int) (e : EntryUse) : Float :=
  let idle := (now - e.touched) / 1000000
  Float.ofNat idle.toNat / 1000 / (1 + Float.ofNat e.hits)

/-- The colder entry first; of two equally cold ones the one with the lesser key. -/
def colder (now : Int) (a b : EntryUse) : Bool :=
  let x := a.coldness now
  let y := b.coldness now
  if y < x then true else if x < y then false else compare a.key b.key != .gt

end EntryUse

/-- The keys to drop, so that no stale entry and at most `capacity` fresh ones (but at least one) are left. -/
def selectEvictions (entries : List EntryUse) (capacity : Nat) (maxAge now : Int) : List String :=
  let stale := entries.filter fun e => isStale e.written maxAge now
  let fresh := entries.filter fun e => !isStale e.written maxAge now
  let overflow := fresh.length - max capacity 1
  let coldest := (fresh.mergeSort (EntryUse.colder now)).take overflow
  (stale ++ coldest).map (·.key)

end CodeGraph
