import CodeGraph.Proofs.Engine.Evolves
import CodeGraph.Proofs.Graph.WellFormed
/-!
An engine at work: commands are handled and the chunks of deferred batches are tried, in whatever
order. After every such step the metrics of all nodes that were noted as changed are dropped.
-/
namespace CodeGraph

/-- An engine and the deferred batches that are not yet closed. -/
structure Session where
  engine : Engine
  batches : List BatchRun := []

inductive Step where
  | handle (r : Reading) (c : Command)
  /-- Tries the next chunk of the batch at that place. -/
  | chunk (r : Reading) (place : Nat)
  | finish (r : Reading) (place : Nat)

def Step.reading : Step → Reading
  | handle r _ => r
  | chunk r _ => r
  | finish r _ => r

namespace Session

def start (config : Config) : Session := { engine := .empty config }

def step (s : Session) : Step → Session
  | .handle r c =>
    let ((engine, _), run) := s.engine.handle r c
    { engine, batches := s.batches ++ run.toList }
  | .chunk r place =>
    match s.batches[place]? with
    | none => s
    | some run =>
      let (engine, run) := s.engine.runChunk r.now run
      { engine, batches := s.batches.set place run }
  | .finish r place =>
    match s.batches[place]? with
    | none => s
    | some run => { engine := (s.engine.finishBatch r.elapsedNanos run).1, batches := s.batches.eraseIdx place }

def after (s : Session) (steps : List Step) : Session := steps.foldl step s

@[simp] theorem after_nil (s : Session) : s.after [] = s := rfl

theorem after_append (s : Session) (xs ys : List Step) : s.after (xs ++ ys) = (s.after xs).after ys :=
  List.foldl_append

theorem after_concat (s : Session) (steps : List Step) (step : Step) :
    s.after (steps ++ [step]) = (s.after steps).step step := after_append s steps [step]

/-- What the next chunk of a batch holds. -/
def nextItems (s : Session) (place : Nat) : List Json :=
  match s.batches[place]? with
  | some run => run.pending.take (max s.engine.config.batchChunkSize 1)
  | none => []

/-- The removals of nodes that a step causes, each with the store that it finds. -/
def removals (s : Session) : Step → List (Store × String)
  | .handle r c => s.engine.removals r.now c
  | .chunk r place => s.engine.store.removalsOf r.now (s.nextItems place)
  | .finish _ _ => []

end Session

namespace Engine

/-- The step as a whole: what `Evolves` says, and no node that was noted as changed is cached
afterwards. -/
structure Settles (now : Time) (e e' : Engine) (removals : List (Store × String)) : Prop where
  evolves : ∃ e₁, Evolves now e e₁ removals ∧ e'.store = e₁.store.takeDirty.2 ∧
    ∀ id entry, e'.derivedCache.entries[id]? = some entry →
      id ∉ e₁.store.dirty ∧ e₁.derivedCache.entries[id]? = some entry

theorem dropDirty_entries (e : Engine) (id : String) :
    e.dropDirty.derivedCache.entries[id]? =
      if id ∈ e.store.dirty then none else e.derivedCache.entries[id]? := by
  simp only [dropDirty, Store.takeDirty, Cache.foldl_invalidate, Cache.getElem?_foldl_erase,
    Std.ExtTreeSet.mem_toList]

theorem Settles.dropDirty {now : Time} {e e₁ : Engine} {removals : List (Store × String)}
    (h : Evolves now e e₁ removals) : Settles now e e₁.dropDirty removals where
  evolves := by
    refine ⟨e₁, h, rfl, ?_⟩
    intro id entry hid
    rw [dropDirty_entries] at hid
    split at hid
    · cases hid
    · next hdirty => exact ⟨hdirty, hid⟩

/-- Handling a command comes to dispatching it; then its time is recorded and changed nodes are
dropped. -/
theorem handle_eq (r : Reading) (e : Engine) (c : Command) :
    ∃ profiler, e.handle r c = (({ (e.dispatch r c).1.1 with profiler }.dropDirty, (e.dispatch r c).1.2),
      (e.dispatch r c).2) := by
  simp only [handle]
  split
  · next e₁ effects run hd => exact ⟨e₁.profiler, by rw [hd]⟩
  · next e₁ effects hd => exact ⟨e₁.profiler.record c.operation r.elapsedNanos, by rw [hd]⟩

theorem handle_store (r : Reading) (e : Engine) (c : Command) :
    (e.handle r c).1.1.store = (e.dispatch r c).1.1.store.takeDirty.2 := by
  obtain ⟨profiler, heq⟩ := handle_eq r e c
  rw [heq]
  rfl

theorem handle_effects (r : Reading) (e : Engine) (c : Command) : (e.handle r c).1.2 = (e.dispatch r c).1.2 := by
  obtain ⟨profiler, heq⟩ := handle_eq r e c
  rw [heq]

theorem handle_settles (r : Reading) (e : Engine) (c : Command) :
    Settles r.now e (e.handle r c).1.1 (e.removals r.now c) := by
  obtain ⟨profiler, heq⟩ := handle_eq r e c
  have h := dispatch_evolves r e c
  rw [heq]
  exact Settles.dropDirty ⟨h.store, h.cached⟩

theorem Settles.idle {now : Time} {e e' : Engine} (hdirty : e.store.dirty = ∅) (hs : e'.store = e.store)
    (hd : e'.derivedCache = e.derivedCache) : Settles now e e' [] where
  evolves := by
    refine ⟨e, Evolves.unchanged rfl rfl, ?_, ?_⟩
    · rw [hs, Store.takeDirty, ← hdirty]
    · intro id entry hid
      rw [hd] at hid
      exact ⟨by simp [hdirty], hid⟩

/-- The engine after items with these verdicts have been tried. -/
def advance (now : Time) (e : Engine) (vs : List Verdict) : Engine :=
  ((Verdict.removed vs).foldl forgetNode
    { e with store := e.store.perform now (Verdict.accepted vs) }).dropDirty

/-- A chunk tries the next items, and what they remove is forgotten. -/
theorem runChunk_eq (now : Time) (e : Engine) {run : BatchRun} (h : run.pending.length ≤ run.total)
    (hr : run.removed = []) : e.runChunk now run =
      let verdicts := Verdict.all now (run.pending.take (max e.config.batchChunkSize 1)) e.store
      (e.advance now verdicts, { run.advance verdicts with removed := [] }) := by
  simp only [runChunk, BatchRun.runChunk, BatchRun.tryItems_eq now _ run e.store h, forgetRemoved,
    BatchRun.takeRemoved]
  simp only [advance, BatchRun.advance, hr, List.nil_append]

/-- Only a batch starts a run, and the run is at its start. -/
theorem handle_run (r : Reading) (e : Engine) (c : Command) {run : BatchRun} (h : (e.handle r c).2 = some run) :
    ∃ ticket items, c = .batch ticket items ∧ items.length > e.config.batchDeferThreshold ∧
      run = .start r.freshId items true := by
  obtain ⟨profiler, heq⟩ := handle_eq r e c
  have hd : (e.dispatch r c).2 = some run := by
    rw [heq] at h
    exact h
  rcases c.quiet_or_active with hq | hactive
  · rw [(dispatch_quiet r e hq).2] at hd
    cases hd
  · cases hactive with
    | batch ticket items =>
      refine ⟨ticket, items, rfl, ?_⟩
      simp only [dispatch, batch] at hd
      split at hd
      · next hlen => exact ⟨hlen, (Option.some.inj hd).symm⟩
      · cases hd
    | _ => cases hd

end Engine

/-- A run between two chunks: what it has left was part of it, and it has told what it removed. -/
structure BatchRun.Sound (run : BatchRun) : Prop where
  pending : run.pending.length ≤ run.total
  removed : run.removed = []

/-- A chunk leaves the run sound, and it has fewer items left if it had any. -/
theorem Engine.runChunk_sound (now : Time) (e : Engine) {run : BatchRun} (h : run.Sound) :
    (e.runChunk now run).2.Sound ∧
      (e.runChunk now run).2.pending.length = run.pending.length - max e.config.batchChunkSize 1 := by
  have hpending : (e.runChunk now run).2.pending.length =
      run.pending.length - max e.config.batchChunkSize 1 := by
    simp only [runChunk_eq now e h.pending h.removed, BatchRun.advance, Verdict.length_all, List.length_drop,
      List.length_take]
    omega
  have htotal : (e.runChunk now run).2.total = run.total := by
    rw [runChunk_eq now e h.pending h.removed]
    rfl
  refine ⟨⟨?_, ?_⟩, hpending⟩
  · have := h.pending
    omega
  · rw [runChunk_eq now e h.pending h.removed]

namespace Session

/-- What holds between any two steps. -/
structure Sound (s : Session) : Prop where
  wellFormed : s.engine.store.WellFormed
  clean : s.engine.store.dirty = ∅
  runs : ∀ run ∈ s.batches, run.Sound

theorem start_sound (config : Config) : (start config).Sound where
  wellFormed := Store.WellFormed.empty _
  clean := rfl
  runs := by simp [start]

variable {s : Session}

theorem step_settles (h : s.Sound) (step : Step) :
    Engine.Settles step.reading.now s.engine (s.step step).engine (s.removals step) := by
  cases step with
  | handle r c => exact Engine.handle_settles r s.engine c
  | chunk r place =>
    simp only [Session.step, removals, nextItems, Step.reading]
    cases hrun : s.batches[place]? with
    | none => exact Engine.Settles.idle h.clean rfl rfl
    | some run =>
      have hsound := h.runs run (List.mem_of_getElem? hrun)
      simp only [Engine.runChunk_eq r.now s.engine hsound.pending hsound.removed]
      apply Engine.Settles.dropDirty
      exact Engine.Evolves.tried (Engine.foldl_forgetNode_store _ _) (Engine.foldl_forgetNode_derivedCache _ _)
  | finish r place =>
    simp only [Session.step, removals]
    cases hrun : s.batches[place]? with
    | none => exact Engine.Settles.idle h.clean rfl rfl
    | some run => exact Engine.Settles.idle h.clean rfl rfl

theorem step_runs (h : s.Sound) (step : Step) : ∀ run ∈ (s.step step).batches, run.Sound := by
  intro run hrun
  cases step with
  | handle r c =>
    simp only [Session.step, List.mem_append, Option.mem_toList] at hrun
    rcases hrun with hrun | hrun
    · exact h.runs run hrun
    · obtain ⟨ticket, items, -, -, rfl⟩ := Engine.handle_run r s.engine c hrun
      exact ⟨Nat.le_refl _, rfl⟩
  | chunk r place =>
    simp only [Session.step] at hrun
    split at hrun
    · exact h.runs run hrun
    · next old hold =>
      rcases List.mem_or_eq_of_mem_set hrun with hrun | rfl
      · exact h.runs run hrun
      · exact (Engine.runChunk_sound r.now s.engine (h.runs old (List.mem_of_getElem? hold))).1
  | finish r place =>
    simp only [Session.step] at hrun
    split at hrun
    · exact h.runs run hrun
    · exact h.runs run (List.mem_of_mem_eraseIdx hrun)

theorem step_sound (h : s.Sound) (step : Step) : (s.step step).Sound := by
  obtain ⟨e₁, hev, hstore, -⟩ := (step_settles h step).evolves
  obtain ⟨as, has, -⟩ := hev.store
  constructor
  · have hw : e₁.store.WellFormed := by
      rw [has]
      exact h.wellFormed.perform _ as
    rw [hstore]
    exact ⟨hw.node_id, hw.edge_key, hw.inRange⟩
  · rw [hstore]
    rfl
  · exact step_runs h step

theorem after_sound (h : s.Sound) (steps : List Step) : (s.after steps).Sound := by
  induction steps generalizing s with
  | nil => exact h
  | cons step steps ih => exact ih (step_sound h step)

end Session
end CodeGraph
