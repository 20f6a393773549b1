import Std.Data.ExtTreeMap
import CodeGraph.Cache.Eviction
import CodeGraph.Json.Basic
/-!
A cache whose entries go stale. A stale entry is not answered, but stays until the next sweep; a new entry beyond
the capacity sweeps at once.
-/
namespace CodeGraph

structure CacheEntry (α : Type) where
  value : α
  written : Int
  touched : Int
  hits : Nat

structure Cache (α : Type) where
  capacity : Nat
  maxAge : Int
  entries : Std.ExtTreeMap String (CacheEntry α) := ∅
  hits : Nat := 0
  misses : Nat := 0

structure CacheStats where
  entries : Nat := 0
  staleEntries : Nat := 0
  capacity : Nat := 0
  hits : Nat := 0
  misses : Nat := 0
  hitRate : Float := 0

def CacheStats.write (s : CacheStats) : Json :=
  .obj [
    ("capacity", .nat s.capacity),
    ("entries", .nat s.entries),
    ("hitRate", .float s.hitRate),
    ("hits", .nat s.hits),
    ("misses", .nat s.misses),
    ("staleEntries", .nat s.staleEntries)]

namespace Cache

/-- Used in place of an age that is too long to be measured. -/
def fallbackMaxAge : Int := 5 * 60 * 1000000000

/-- The longest age that can be measured: 63 bits of milliseconds. -/
def longestMaxAge : Nat := (Nat.pow 2 63 - 1) * 1000000

/-- A cache of at least one entry; the age is in nanoseconds. -/
def empty (capacity maxAge : Nat) : Cache α :=
  { capacity := max capacity 1, maxAge := if maxAge ≤ longestMaxAge then maxAge else fallbackMaxAge }

def size (c : Cache α) : Nat := c.entries.size

def isFresh (c : Cache α) (now : Int) (e : CacheEntry α) : Bool := !isStale e.written c.maxAge now

def uses (c : Cache α) : List EntryUse :=
  c.entries.toList.map fun e => ⟨e.1, e.2.written, e.2.touched, e.2.hits⟩

def evictions (c : Cache α) (now : Int) : List String := selectEvictions c.uses c.capacity c.maxAge now

/-- Drops what has to go; tells how many entries that were. -/
def optimize (c : Cache α) (now : Int) : Cache α × Nat :=
  let keys := c.evictions now
  ({ c with entries := keys.foldl (·.erase ·) c.entries }, keys.length)

/-- Stores a value written at a moment that may differ from the clock's. -/
def setAt (c : Cache α) (key : String) (value : α) (written clock : Int) : Cache α :=
  let hits := (c.entries[key]?.map (·.hits)).getD 0
  let c := { c with entries := c.entries.insert key ⟨value, written, written, hits⟩ }
  if c.entries.size > c.capacity then (c.optimize (max written clock)).1 else c

def set (c : Cache α) (key : String) (value : α) (now : Int) : Cache α := c.setAt key value now now

/-- The value, if it is fresh. -/
def get? (c : Cache α) (key : String) (now : Int) : Option α × Cache α :=
  match c.entries[key]? with
  | none => (none, { c with misses := c.misses + 1 })
  | some e =>
    if c.isFresh now e then
      (some e.value, { c with
        entries := c.entries.insert key { e with touched := now, hits := e.hits + 1 }
        hits := c.hits + 1 })
    else (none, { c with misses := c.misses + 1 })

/-- Drops an entry; tells whether there was one. -/
def invalidate (c : Cache α) (key : String) : Cache α × Bool :=
  ({ c with entries := c.entries.erase key }, c.entries.contains key)

def staleCount (c : Cache α) (now : Int) : Nat :=
  (c.entries.toList.filter fun e => !c.isFresh now e.2).length

def stats (c : Cache α) (now : Int) : CacheStats :=
  let lookups := c.hits + c.misses
  { entries := c.size, staleEntries := c.staleCount now, capacity := c.capacity, hits := c.hits, misses := c.misses
    hitRate := if lookups = 0 then 0 else .ofNat c.hits / .ofNat lookups }

end Cache
end CodeGraph
