import Mathlib.Data.List.Induction
import CodeGraph.Proofs.Cache.Sweep
/-!
A cache against the history of what was done to it. Whatever the times are, it never holds more than its capacity, and
what it answers is what was stored last, neither dropped since nor too old.
-/
namespace CodeGraph

inductive CacheOp (α : Type) where
  | set (key : String) (value : α) (written clock : Int)
  | get (key : String) (now : Int)
  | invalidate (key : String)
  | optimize (now : Int)

/-- The key whose value an operation decides. -/
def CacheOp.decides? {α : Type} : CacheOp α → Option String
  | set key _ _ _ | invalidate key => some key
  | get _ _ | optimize _ => none

/-- Of all operations that decide about a key the last one stored this value, as of that time. -/
def LastStored {α : Type} (ops : List (CacheOp α)) (key : String) (value : α) (written : Int) : Prop :=
  ∃ before clock since, ops = before ++ .set key value written clock :: since ∧ ∀ op ∈ since, op.decides? ≠ some key

theorem LastStored.concat {α : Type} {ops : List (CacheOp α)} {key : String} {value : α} {written : Int}
    (h : LastStored ops key value written) {op : CacheOp α} (hop : op.decides? ≠ some key) :
    LastStored (ops ++ [op]) key value written := by
  obtain ⟨before, clock, since, rfl, hsince⟩ := h
  refine ⟨before, clock, since ++ [op], by simp, fun other hother => ?_⟩
  rcases List.mem_append.mp hother with hother | hother
  · exact hsince other hother
  · rwa [List.mem_singleton.mp hother]

namespace Cache
variable {α : Type}

def step (c : Cache α) : CacheOp α → Cache α
  | .set key value written clock => c.setAt key value written clock
  | .get key now => (c.get? key now).2
  | .invalidate key => (c.invalidate key).1
  | .optimize now => (c.optimize now).1

def after (c : Cache α) (ops : List (CacheOp α)) : Cache α := ops.foldl step c

theorem after_concat (c : Cache α) (ops : List (CacheOp α)) (op : CacheOp α) :
    c.after (ops ++ [op]) = (c.after ops).step op := List.foldl_concat ..

/-- The cache with a new entry, before it is seen whether that is one too many. -/
def put (c : Cache α) (key : String) (value : α) (written : Int) : Cache α :=
  { c with entries := c.entries.insert key ⟨value, written, written, (c.entries[key]?.map (·.hits)).getD 0⟩ }

/-- The cache that an operation sweeps, and the time by which it does; none if there is no need. -/
def swept? (c : Cache α) : CacheOp α → Option (Cache α × Int)
  | .set key value written clock =>
    let c := c.put key value written
    if c.size > c.capacity then some (c, max written clock) else none
  | .optimize now => some (c, now)
  | .get _ _ | .invalidate _ => none

section Step
variable {c c' : Cache α} {op : CacheOp α} {now : Int}

theorem step_of_swept (h : c.swept? op = some (c', now)) : c.step op = (c'.optimize now).1 := by
  cases op with
  | set key value written clock =>
    simp only [swept?] at h
    split at h
    · next hsize =>
      cases h
      exact if_pos hsize
    · cases h
  | optimize time =>
    cases h
    rfl
  | get key time => cases h
  | invalidate key => cases h

theorem step_set (c : Cache α) (key : String) (value : α) (written clock : Int) :
    (c.put key value written).size ≤ c.capacity ∧ c.step (.set key value written clock) = c.put key value written ∨
      c.step (.set key value written clock) = ((c.put key value written).optimize (max written clock)).1 := by
  by_cases h : (c.put key value written).size > c.capacity
  · exact Or.inr (if_pos h)
  · exact Or.inl ⟨Nat.le_of_not_lt h, if_neg h⟩

/-- No operation changes what a cache is set up with. -/
theorem step_limits (c : Cache α) (op : CacheOp α) :
    (c.step op).capacity = c.capacity ∧ (c.step op).maxAge = c.maxAge := by
  cases op with
  | set key value written clock =>
    rcases c.step_set key value written clock with ⟨-, hset⟩ | hset
    · rw [hset]
      exact ⟨rfl, rfl⟩
    · rw [hset]
      exact ⟨rfl, rfl⟩
  | get key now =>
    simp only [step, get?]
    split
    · exact ⟨rfl, rfl⟩
    · split <;> exact ⟨rfl, rfl⟩
  | invalidate key => exact ⟨rfl, rfl⟩
  | optimize now => exact ⟨rfl, rfl⟩

theorem size_get? (c : Cache α) (key : String) (now : Int) : (c.get? key now).2.size = c.size := by
  simp only [get?]
  split
  · rfl
  · next entry hentry =>
    split
    · exact Std.ExtTreeMap.size_insert.trans (if_pos (mem_iff.mpr ⟨entry, hentry⟩))
    · rfl

theorem step_size (hpos : 1 ≤ c.capacity) (h : c.size ≤ c.capacity) (op : CacheOp α) :
    (c.step op).size ≤ c.capacity := by
  have hswept : ∀ (c' : Cache α) now, c'.capacity = c.capacity → (c'.optimize now).1.size ≤ c.capacity := by
    intro c' now hcapacity
    rw [size_optimize, hcapacity]
    omega
  cases op with
  | set key value written clock =>
    rcases c.step_set key value written clock with ⟨hsize, hset⟩ | hset
    · exact hset ▸ hsize
    · exact hset ▸ hswept _ _ rfl
  | get key now => exact Nat.le_trans (Nat.le_of_eq (c.size_get? key now)) h
  | invalidate key => exact Nat.le_trans Std.ExtTreeMap.size_erase_le h
  | optimize now => exact hswept c now rfl

/-- What a cache holds was put there, or held before and left alone. -/
theorem put_entry {key k : String} {value : α} {written : Int} {entry : CacheEntry α}
    (h : (c.put key value written).entries[k]? = some entry) :
    (key = k ∧ entry.value = value ∧ entry.written = written) ∨ (key ≠ k ∧ c.entries[k]? = some entry) := by
  rw [put, Std.ExtTreeMap.getElem?_insert] at h
  split at h
  · next hkey =>
    cases h
    exact Or.inl ⟨Std.compare_eq_iff_eq.mp hkey, rfl, rfl⟩
  · next hkey => exact Or.inr ⟨fun heq => hkey (Std.compare_eq_iff_eq.mpr heq), h⟩

/-- A look-up changes neither the value of an entry nor the time as of which it is stored. -/
theorem get?_entry {key k : String} {entry : CacheEntry α} (h : (c.get? key now).2.entries[k]? = some entry) :
    ∃ old, c.entries[k]? = some old ∧ old.value = entry.value ∧ old.written = entry.written := by
  simp only [get?] at h
  split at h
  · exact ⟨entry, h, rfl, rfl⟩
  · next found hfound =>
    split at h
    · rw [Std.ExtTreeMap.getElem?_insert] at h
      split at h
      · next hkey =>
        cases h
        exact ⟨found, Std.compare_eq_iff_eq.mp hkey ▸ hfound, rfl, rfl⟩
      · exact ⟨entry, h, rfl, rfl⟩
    · exact ⟨entry, h, rfl, rfl⟩

/-- Every entry tells what was stored last under its key. -/
def Faithful (c : Cache α) (ops : List (CacheOp α)) : Prop :=
  ∀ (key : String) (entry : CacheEntry α), c.entries[key]? = some entry → LastStored ops key entry.value entry.written

theorem Faithful.step {ops : List (CacheOp α)} (h : c.Faithful ops) (op : CacheOp α) :
    (c.step op).Faithful (ops ++ [op]) := by
  intro k entry hentry
  cases op with
  | set key value written clock =>
    have hput : (c.put key value written).entries[k]? = some entry := by
      rcases c.step_set key value written clock with ⟨-, hset⟩ | hset
      · exact hset ▸ hentry
      · exact optimize_entry (hset ▸ hentry)
    rcases put_entry hput with ⟨rfl, rfl, rfl⟩ | ⟨hkey, hold⟩
    · exact ⟨ops, clock, [], rfl, by simp⟩
    · exact (h k _ hold).concat fun heq => hkey (Option.some.inj heq)
  | get key now =>
    obtain ⟨old, hold, hvalue, hwritten⟩ := get?_entry hentry
    exact hvalue ▸ hwritten ▸ (h k _ hold).concat (by simp [CacheOp.decides?])
  | invalidate key =>
    have herased : (c.entries.erase key)[k]? = some entry := hentry
    rw [Std.ExtTreeMap.getElem?_erase] at herased
    split at herased
    · cases herased
    · next hkey =>
      exact (h k entry herased).concat fun heq => hkey (Std.compare_eq_iff_eq.mpr (Option.some.inj heq))
  | optimize now => exact (h k entry (optimize_entry hentry)).concat (by simp [CacheOp.decides?])

/-- What is answered is held and not too old. -/
theorem get?_fresh {key : String} {value : α} (h : (c.get? key now).1 = some value) :
    ∃ entry, c.entries[key]? = some entry ∧ entry.value = value ∧ now - entry.written ≤ c.maxAge := by
  simp only [get?] at h
  split at h
  · cases h
  · next entry hentry =>
    split at h
    · next hfresh =>
      cases h
      refine ⟨entry, hentry, rfl, ?_⟩
      simpa [isFresh, isStale] using hfresh
    · cases h

end Step

theorem empty_maxAge_le (capacity maxAge : Nat) : (empty capacity maxAge : Cache α).maxAge ≤ maxAge := by
  have hfallback : fallbackMaxAge ≤ (longestMaxAge : Int) := by decide
  simp only [empty]
  split <;> omega

/-- A cache at any point of its history. -/
structure Sound (c : Cache α) (capacity maxAge : Nat) (ops : List (CacheOp α)) : Prop where
  capacity : c.capacity = max capacity 1
  maxAge : c.maxAge ≤ maxAge
  size : c.size ≤ c.capacity
  faithful : c.Faithful ops

theorem after_sound (capacity maxAge : Nat) (ops : List (CacheOp α)) :
    ((empty capacity maxAge).after ops).Sound capacity maxAge ops := by
  induction ops using List.reverseRecOn with
  | nil =>
    refine ⟨rfl, empty_maxAge_le capacity maxAge, ?_, fun key entry h => ?_⟩
    · exact Nat.le_trans (Nat.le_of_eq Std.ExtTreeMap.size_empty) (Nat.zero_le _)
    · simp [after, empty] at h
  | append_singleton ops op ih =>
    obtain ⟨hcapacity, hage⟩ := step_limits ((empty capacity maxAge).after ops) op
    have hpos : 1 ≤ ((empty capacity maxAge).after ops).capacity := by
      rw [ih.capacity]
      omega
    rw [after_concat]
    exact ⟨hcapacity.trans ih.capacity, hage ▸ ih.maxAge, hcapacity ▸ step_size hpos ih.size op, ih.faithful.step op⟩

/-- At any point of its history a cache holds no more than its capacity and answers nothing but what was stored last
under a key, if that is not too old; and no sweep that finds a fresh entry empties it. -/
theorem expiring_map (capacity maxAge : Nat) (ops : List (CacheOp α)) :
    let c := (empty capacity maxAge).after ops
    c.size ≤ max capacity 1 ∧
    (∀ key now value, (c.get? key now).1 = some value →
      ∃ written, LastStored ops key value written ∧ now - written ≤ maxAge) ∧
    ∀ op c' now, c.swept? op = some (c', now) → c'.HoldsFresh now → (c.step op).size ≠ 0 := by
  intro c
  have h : c.Sound capacity maxAge ops := after_sound capacity maxAge ops
  refine ⟨h.capacity ▸ h.size, fun key now value hanswer => ?_, fun op c' now hswept hfresh => ?_⟩
  · obtain ⟨entry, hentry, rfl, hage⟩ := get?_fresh hanswer
    exact ⟨entry.written, h.faithful key entry hentry, Int.le_trans hage h.maxAge⟩
  · rw [step_of_swept hswept]
    exact Nat.ne_of_gt (size_optimize_pos c' now hfresh)

/-- A value that is stored anew is as old as its own time says, whenever it is looked up before. -/
example :
    let c := (empty 2 300 : Cache Nat).after [.set "a" 1 0 0, .get "a" 50, .set "b" 2 10 60, .set "a" 3 20 70]
    (c.get? "a" 320).1 = some 3 ∧ (c.get? "a" 321).1 = none ∧ (c.get? "b" 5).1 = some 2 := by decide +kernel

end Cache
end CodeGraph
