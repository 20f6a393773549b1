import Mathlib.Data.List.Induction
import CodeGraph.Engine.Profiler
/-!
A profiler against the history of what it was told. A profile that ends counts what was recorded since it was last
started, whatever other profiles were started and ended meanwhile.
-/
namespace CodeGraph

/-- What a profiler is told. -/
inductive ProfilerOp where
  | record (name : String) (nanos : Nat)
  | start (now : Time) (id : String) (operations : List String) (memory : Nat)
  | finish (now : Time) (id : String) (memory : Nat)

namespace ProfilerOp

def recorded? : ProfilerOp → Option String
  | record name _ => some name
  | _ => none

def started? : ProfilerOp → Option String
  | start _ id _ _ => some id
  | _ => none

def finished? : ProfilerOp → Option String
  | finish _ id _ => some id
  | _ => none

/-- How often an operation was recorded. -/
def timesRecorded (name : String) (ops : List ProfilerOp) : Nat := ops.countP (·.recorded? == some name)

theorem timesRecorded_append (name : String) (ops ops' : List ProfilerOp) :
    timesRecorded name (ops ++ ops') = timesRecorded name ops + timesRecorded name ops' := List.countP_append

theorem timesRecorded_record (name other : String) (nanos : Nat) :
    timesRecorded name [record other nanos] = if other = name then 1 else 0 := by
  simp [timesRecorded, recorded?, List.countP_singleton]

/-- A profile was started after it was last ended. -/
def IsOpen (ops : List ProfilerOp) (id : String) : Prop :=
  ∃ before now operations memory since, ops = before ++ .start now id operations memory :: since ∧
    ∀ op ∈ since, op.finished? ≠ some id

/-- A profile was last started for some operations, and neither started nor ended since. -/
def LastStarted (ops : List ProfilerOp) (id : String) (operations : List String) (since : List ProfilerOp) : Prop :=
  ∃ before now memory, ops = before ++ .start now id operations memory :: since ∧
    ∀ op ∈ since, op.started? ≠ some id ∧ op.finished? ≠ some id

/-- The names under which a profile reports: those that it was started for, or else all that were ever recorded. -/
def Followed (operations : List String) (ops : List ProfilerOp) (name : String) : Prop :=
  if operations = [] then ∃ op ∈ ops, op.recorded? = some name else name ∈ operations

end ProfilerOp

open ProfilerOp

/-- A map made of names finds each name's own value. -/
theorem getElem?_ofList_names {α : Type} (value : String → α) (names : List String) (name : String) :
    (Std.ExtTreeMap.ofList (names.map fun n => (n, value n)))[name]? =
      if name ∈ names then some (value name) else none := by
  have hinsert : ∀ m : Std.ExtTreeMap String α, (m.insertMany (names.map fun n => (n, value n)))[name]? =
      if name ∈ names then some (value name) else m[name]? := by
    induction names with
    | nil => simp
    | cons n rest ih =>
      intro m
      rw [List.map_cons, Std.ExtTreeMap.insertMany_cons, ih, Std.ExtTreeMap.getElem?_insert]
      grind
  rw [Std.ExtTreeMap.ofList_eq_insertMany_empty, hinsert, Std.ExtTreeMap.getElem?_empty]

namespace Profiler

def step (p : Profiler) : ProfilerOp → Profiler
  | .record name nanos => p.record name nanos
  | .start now id operations memory => p.start now id operations memory
  | .finish now id memory => (p.finish now id memory).2

def after (p : Profiler) (ops : List ProfilerOp) : Profiler := ops.foldl step p

/-- How often an operation has been recorded so far. -/
def count (p : Profiler) (name : String) : Nat := ((p.stats? name).getD {}).count

/-- What is kept of a profile that is started now. -/
def opened (p : Profiler) (now : Time) (operations : List String) (memory : Nat) : ActiveProfile :=
  { operations, startedAt := now, memory
    baseline := p.operations.filter fun name _ => operations.isEmpty || operations.contains name }

variable (p : Profiler) (op : ProfilerOp) (ops : List ProfilerOp) (id name : String)

theorem after_cons : p.after (op :: ops) = (p.step op).after ops := rfl

theorem after_append (ops' : List ProfilerOp) : p.after (ops ++ ops') = (p.after ops).after ops' := List.foldl_append

theorem after_concat : p.after (ops ++ [op]) = (p.after ops).step op := p.after_append ops [op]

theorem finish_operations (now : Time) (memory : Nat) : (p.finish now id memory).2.operations = p.operations := by
  simp only [finish]
  split <;> rfl

theorem count_step : (p.step op).count name = p.count name + timesRecorded name [op] := by
  cases op with
  | record other nanos =>
    by_cases h : other = name
    · subst h
      simp [step, record, count, stats?, timesRecorded, recorded?, OperationStats.record]
    · simp [step, record, count, stats?, timesRecorded, recorded?, Std.ExtTreeMap.getElem?_insert, h]
  | start now id operations memory => rfl
  | finish now id memory => simp only [step, count, stats?, finish_operations]; rfl

/-- A count grows by one with every record. -/
theorem count_after : (p.after ops).count name = p.count name + timesRecorded name ops := by
  induction ops generalizing p with
  | nil => rfl
  | cons op ops ih =>
    calc ((p.step op).after ops).count name
      _ = p.count name + timesRecorded name [op] + timesRecorded name ops := by rw [ih, count_step]
      _ = p.count name + timesRecorded name (op :: ops) := by
        rw [Nat.add_assoc, ← timesRecorded_append, List.singleton_append]

theorem mem_step : name ∈ (p.step op).operations ↔ op.recorded? = some name ∨ name ∈ p.operations := by
  cases op with
  | record other nanos => simp [step, record, recorded?, Std.ExtTreeMap.mem_insert]
  | start now id operations memory => simp [step, start, recorded?]
  | finish now id memory => simp [step, finish_operations, recorded?]

theorem mem_after : name ∈ (p.after ops).operations ↔ (∃ op ∈ ops, op.recorded? = some name) ∨ name ∈ p.operations := by
  induction ops generalizing p with
  | nil => simp [after]
  | cons op ops ih =>
    simp only [after_cons, ih, mem_step, List.mem_cons, exists_eq_or_imp, or_assoc, or_left_comm]

section Profiles
variable {p op ops id}

theorem step_started (now : Time) (operations : List String) (memory : Nat) :
    (p.step (.start now id operations memory)).profiles[id]? = some (p.opened now operations memory) := by
  simp [step, start, opened]

theorem step_finished (h : op.finished? = some id) : (p.step op).profiles[id]? = none := by
  cases op with
  | finish now other memory =>
    cases h
    simp only [step, finish]
    split
    · next h => exact h
    · simp
  | _ => cases h

theorem step_other (hs : op.started? ≠ some id) (hf : op.finished? ≠ some id) :
    (p.step op).profiles[id]? = p.profiles[id]? := by
  cases op with
  | record other nanos => rfl
  | start now other operations memory =>
    have hne : other ≠ id := fun h => hs (congrArg some h)
    simp [step, start, Std.ExtTreeMap.getElem?_insert, hne]
  | finish now other memory =>
    have hne : other ≠ id := fun h => hf (congrArg some h)
    simp only [step, finish]
    split
    · rfl
    · simp [Std.ExtTreeMap.getElem?_erase, hne]

theorem after_open (h : (p.profiles[id]?).isSome) (hops : ∀ op ∈ ops, op.finished? ≠ some id) :
    ((p.after ops).profiles[id]?).isSome := by
  induction ops generalizing p with
  | nil => exact h
  | cons op ops ih =>
    refine ih ?_ fun other hother => hops other (List.mem_cons_of_mem op hother)
    have hfinish := hops op List.mem_cons_self
    cases op with
    | start now other operations memory =>
      by_cases hid : other = id
      · subst hid
        rw [step_started]
        rfl
      · rwa [step_other (by simpa [started?] using hid) hfinish]
    | record other nanos => exact h
    | finish now other memory => rwa [step_other (by simp [started?]) hfinish]

/-- What is kept of a profile was put there when it was last started. -/
theorem opened_of_after {a : ActiveProfile} (h : ((Profiler.after {} ops).profiles[id]?) = some a) :
    ∃ before now memory since, ops = before ++ .start now id a.operations memory :: since ∧
      (∀ op ∈ since, op.started? ≠ some id ∧ op.finished? ≠ some id) ∧
      a = (Profiler.after {} before).opened now a.operations memory := by
  induction ops using List.reverseRecOn generalizing a with
  | nil => simp [after] at h
  | append_singleton ops op ih =>
    rw [after_concat] at h
    by_cases hf : op.finished? = some id
    · rw [step_finished hf] at h
      cases h
    · by_cases hs : op.started? = some id
      · cases op with
        | start now other operations memory =>
          cases hs
          rw [step_started] at h
          cases h
          exact ⟨ops, now, memory, [], rfl, by simp, rfl⟩
        | _ => cases hs
      · rw [step_other hs hf] at h
        obtain ⟨before, now, memory, since, rfl, hsince, ha⟩ := ih h
        refine ⟨before, now, memory, since ++ [op], by simp, fun other hother => ?_, ha⟩
        rcases List.mem_append.mp hother with hother | hother
        · exact hsince other hother
        · rw [List.mem_singleton.mp hother]
          exact ⟨hs, hf⟩

end Profiles

/-- A profile can be reported on exactly while it is open. -/
theorem finish_isSome (now : Time) (memory : Nat) :
    (((Profiler.after {} ops).finish now id memory).1).isSome ↔ IsOpen ops id := by
  have hfinish : (((Profiler.after {} ops).finish now id memory).1).isSome ↔
      ((Profiler.after {} ops).profiles[id]?).isSome := by
    simp only [finish]
    split <;> simp [*]
  rw [hfinish]
  constructor
  · intro h
    obtain ⟨a, ha⟩ := Option.isSome_iff_exists.mp h
    obtain ⟨before, t, m, since, hops, hsince, -⟩ := opened_of_after ha
    exact ⟨before, t, a.operations, m, since, hops, fun op hop => (hsince op hop).2⟩
  · rintro ⟨before, t, operations, m, since, rfl, hsince⟩
    rw [after_append, after_cons]
    refine after_open ?_ hsince
    rw [step_started]
    rfl

/-- What a profile counts is what was recorded since it was started. -/
theorem count_since (now : Time) (operations : List String) (memory : Nat)
    (h : operations = [] ∨ name ∈ operations) :
    ((p.after ops).since (p.opened now operations memory) name).count = timesRecorded name ops := by
  have hbefore : (((p.opened now operations memory).baseline[name]?).getD {}).count = p.count name := by
    have hfollowed : (operations.isEmpty || operations.contains name) = true := by
      simpa using h
    simp only [opened, Std.ExtTreeMap.getElem?_filter', hfollowed, count, stats?]
    cases p.operations[name]? <;> rfl
  calc ((p.after ops).since (p.opened now operations memory) name).count
    _ = (p.after ops).count name - p.count name := congrArg ((p.after ops).count name - ·) hbefore
    _ = timesRecorded name ops := by rw [count_after, Nat.add_sub_cancel_left]

/-- The names that a report is made for. -/
def reported (a : ActiveProfile) : List String := if a.operations.isEmpty then p.operations.keys else a.operations

theorem mem_reported (a : ActiveProfile) :
    name ∈ (Profiler.after {} ops).reported a ↔ Followed a.operations ops name := by
  have hkeys : name ∈ (Profiler.after {} ops).operations.keys ↔ ∃ op ∈ ops, op.recorded? = some name := by
    simp [mem_after]
  simp only [reported, Followed, List.isEmpty_iff]
  split
  · exact hkeys
  · rfl

theorem getElem?_report (now : Time) (a : ActiveProfile) (memory : Nat) :
    (p.report now id a memory).operations[name]? = if name ∈ p.reported a then some (p.since a name) else none :=
  getElem?_ofList_names (p.since a) (p.reported a) name

theorem mem_report (now : Time) (a : ActiveProfile) (memory : Nat) :
    name ∈ (p.report now id a memory).operations ↔ name ∈ p.reported a := by
  rw [Std.ExtTreeMap.mem_iff_isSome_getElem?, getElem?_report]
  split
  · next hname => exact iff_of_true rfl hname
  · next hname => exact iff_of_false Bool.false_ne_true hname

/-- A report is about the profile as it was last started. -/
theorem finish_report {now : Time} {memory : Nat} {report : ProfileReport}
    (h : ((Profiler.after {} ops).finish now id memory).1 = some report) :
    ∃ operations since, LastStarted ops id operations since ∧
      (∀ name, name ∈ report.operations ↔ Followed operations ops name) ∧
      ∀ name profiled, report.operations[name]? = some profiled → profiled.count = timesRecorded name since := by
  simp only [finish] at h
  split at h
  · cases h
  · next a ha =>
    cases h
    obtain ⟨before, t, m, since, hops, hsince, hopened⟩ := opened_of_after ha
    refine ⟨a.operations, since, ⟨before, t, m, hops, hsince⟩, fun name => ?_, fun name profiled hprofiled => ?_⟩
    · rw [mem_report, mem_reported]
    · rw [getElem?_report] at hprofiled
      split at hprofiled
      · next hname =>
        cases hprofiled
        have hfollowed : a.operations = [] ∨ name ∈ a.operations := by
          simp only [reported, List.isEmpty_iff] at hname
          split at hname
          · next hnil => exact Or.inl hnil
          · exact Or.inr hname
        have hafter : Profiler.after {} ops =
            (Profiler.after {} before).after (.start t id a.operations m :: since) := by
          rw [hops, after_append]
        calc ((Profiler.after {} ops).since a name).count
          _ = (((Profiler.after {} before).after (.start t id a.operations m :: since)).since
              ((Profiler.after {} before).opened t a.operations m) name).count := by rw [← hopened, hafter]
          _ = timesRecorded name (.start t id a.operations m :: since) := count_since _ _ _ t a.operations m hfollowed
          _ = timesRecorded name since := rfl
      · cases hprofiled

-- Another profile of the same operation makes no difference.
example (t : Time) :
    let ops := [.start t "a" ["op"] 0, .record "op" 1, .start t "b" [] 0, .record "op" 1, .finish t "b" 0]
    (((Profiler.after {} ops).finish t "a" 0).1.map fun r => r.operations["op"]?.map (·.count)) = some (some 2) := by
  rfl

end Profiler
end CodeGraph
