import CodeGraph.Proofs.Engine.Worker
import CodeGraph.Proofs.Profile.Sessions
/-!
What an engine tells its profiler. Every command that is handled is recorded once under its own operation: at once, or
for a deferred batch when it is closed.
-/
namespace CodeGraph

open ProfilerOp

namespace Engine

/-- What a command itself asks of the profiler. -/
def profiling (now : Time) (e : Engine) : Command → List ProfilerOp
  | .startProfile id operations => [.start now id operations e.footprint]
  | .ask _ (.endProfile id) => [.finish now id e.footprint]
  | _ => []

section Handlers
variable (r : Reading) (now : Time) (e : Engine)

theorem timesRecorded_profiling (c : Command) (name : String) : timesRecorded name (e.profiling now c) = 0 := by
  cases c with
  | ask ticket q => cases q <;> rfl
  | _ => rfl

theorem foldl_forgetNode_profiler (ids : List String) : (ids.foldl forgetNode e).profiler = e.profiler := by
  induction ids generalizing e with
  | nil => rfl
  | cons id ids ih => exact ih (e.forgetNode id)

theorem inbound_profiler (event : String) (payload : Json) : (e.inbound r event payload).1.profiler = e.profiler := by
  simp only [inbound]
  split
  · rfl
  · simp only [fileChanged]
    split <;> rfl
  · simp only [dependenciesChanged]
    split
    · rfl
    · split <;> rfl
  · simp only [analysisUpdated]
    split <;> rfl
  · rfl
  · simp only [agentUpdate]
    split <;> rfl
  · rfl

theorem projectPulled_profiler (result : Except TransportError Json) :
    (e.projectPulled now result).1.profiler = e.profiler := by
  unfold projectPulled
  split
  · split <;> rfl
  · rfl
  · rfl

theorem analysisFinished_profiler (path : String) (seq : Nat) (result : Except TransportError Json) :
    (e.analysisFinished now path seq result).1.profiler = e.profiler := by
  simp only [analysisFinished, applyAnalysis, landAnalysis]
  split
  · split
    · rfl
    · split
      · rfl
      · split <;> rfl
  · rfl

theorem batch_profiler (ticket : Ticket) (items : List Json) :
    (e.batch r ticket items).1.1.profiler = e.profiler := by
  simp only [batch]
  split
  · rfl
  · exact foldl_forgetNode_profiler _ _

theorem query_profiler (ticket : Ticket) (q : Query) :
    (e.query r ticket q).1.profiler = e.profiler.after (e.profiling r.now (.ask ticket q)) := by
  cases q with
  | upsertNode data =>
    simp only [query]
    split <;> rfl
  | upsertEdge data =>
    simp only [query]
    split <;> rfl
  | removeNode id =>
    simp only [query, removeNode]
    cases e.store.removeNode r.now id <;> rfl
  | removeEdge source target =>
    simp only [query]
    split <;> rfl
  | nodeInfo id =>
    simp only [query, nodeInfo]
    split <;> rfl
  | _ => rfl

/-- Dispatching a command asks nothing else of the profiler. -/
theorem dispatch_profiler (c : Command) :
    (e.dispatch r c).1.1.profiler = e.profiler.after (e.profiling r.now c) := by
  cases c with
  | inbound event payload => exact inbound_profiler r e event payload
  | analysisDue path seq content =>
    simp only [dispatch, analysisDue]
    split <;> rfl
  | answered purpose result =>
    cases purpose with
    | analysis path seq => exact analysisFinished_profiler r.now e path seq result
    | context ticket request => rfl
    | project => exact projectPulled_profiler r.now e result
  | ask ticket q => exact query_profiler r e ticket q
  | batch ticket items => exact batch_profiler r e ticket items
  | _ => rfl

/-- Handling adds one record, unless it starts a run. -/
theorem handle_profiler (c : Command) : (e.handle r c).1.1.profiler = e.profiler.after
    (e.profiling r.now c ++ if (e.handle r c).2.isSome then [] else [.record c.operation r.elapsedNanos]) := by
  rw [Profiler.after_append, ← dispatch_profiler]
  rcases hd : e.dispatch r c with ⟨⟨e', effects⟩, run | run⟩
  · simp only [handle, hd]
    rfl
  · simp only [handle, hd]
    rfl

theorem runChunk_profiler (run : BatchRun) : (e.runChunk now run).1.profiler = e.profiler :=
  foldl_forgetNode_profiler _ _

end Handlers
end Engine

namespace Worker

/-- How many commands that are handled under a name still have to be recorded. -/
def unrecorded (w : Worker) (name : String) : Nat :=
  if w.run.isSome ∧ (Command.batch 0 []).operation = name then 1 else 0

/-- How many of some commands are handled under a name. -/
def handledAs (name : String) (handled : List Handling) : Nat := handled.countP (·.command.operation == name)

variable {w : Worker} {m : Move}

theorem unrecorded_idle (h : w.run = none) (name : String) : w.unrecorded name = 0 := by
  simp [unrecorded, h]

theorem unrecorded_run {run : BatchRun} (h : w.run = some run) (name : String) :
    w.unrecorded name = if (Command.batch 0 []).operation = name then 1 else 0 := by
  simp [unrecorded, h]

theorem handledAs_append (name : String) (xs ys : List Handling) :
    handledAs name (xs ++ ys) = handledAs name xs + handledAs name ys := List.countP_append

theorem handledAs_one (name : String) (h : Handling) :
    handledAs name [h] = if h.command.operation = name then 1 else 0 := by
  simp [handledAs, List.countP_singleton]

/-- What the worker tells the profiler in a move, and the records that makes. -/
structure Tells (w : Worker) (m : Move) (ops : List ProfilerOp) : Prop where
  profiler : (w.move m).engine.profiler = w.engine.profiler.after ops
  records : ∀ name, timesRecorded name ops + (w.move m).unrecorded name =
    w.unrecorded name + handledAs name (w.begins m).toList

theorem Tells.nothing (hmove : w.move m = w) (hbegins : w.begins m = none) : w.Tells m [] where
  profiler := congrArg (·.engine.profiler) hmove
  records name := by
    rw [hmove, hbegins]
    exact Nat.add_comm ..

theorem Tells.turn_run {r : Reading} {run : BatchRun} (hs : w.stopped = false) (hr : w.run = some run)
    (hbegins : w.begins (.turn r) = none) : ∃ ops, w.Tells (.turn r) ops := by
  have hchunk := w.engine.runChunk_profiler r.now run
  have hturn := Worker.turn_run (r := r) hs hr
  split at hturn
  · refine ⟨[.record (Command.batch 0 []).operation r.elapsedNanos], ?_, fun name => ?_⟩
    · rw [hturn]
      simp only [Engine.finishBatch, hchunk]
      rfl
    · rw [hturn, hbegins, timesRecorded_record, unrecorded_idle rfl, unrecorded_run hr]
      rfl
  · refine ⟨[], ?_, fun name => ?_⟩
    · rw [hturn]
      exact hchunk
    · rw [hturn, hbegins, unrecorded_run rfl, unrecorded_run hr]
      exact Nat.add_comm ..

theorem Tells.turn_command {r : Reading} {c : Command} {rest : List Command} (hs : w.stopped = false)
    (hr : w.run = none) (hq : w.queue = c :: rest) (hc : c.isShutdown = false)
    (hbegins : w.begins (.turn r) = some ⟨r, c, w.engine⟩) : ∃ ops, w.Tells (.turn r) ops := by
  have hturn := Worker.turn_command (r := r) hs hr hq hc
  refine ⟨_, by rw [hturn]; exact w.engine.handle_profiler r c, fun name => ?_⟩
  rw [hturn, hbegins, timesRecorded_append, Engine.timesRecorded_profiling, unrecorded_idle hr, Option.toList_some,
    handledAs_one]
  cases hrun : (w.engine.handle r c).2 with
  | none =>
    rw [unrecorded_idle rfl]
    exact congrArg (0 + · + 0) (timesRecorded_record ..)
  | some run =>
    -- The batch is not recorded yet; it counts as unrecorded until it is closed.
    obtain ⟨ticket, items, rfl, -⟩ := Engine.handle_run r w.engine c hrun
    rw [unrecorded_run rfl]
    rfl

theorem move_tells (w : Worker) (m : Move) : ∃ ops, w.Tells m ops := by
  cases m with
  | post c =>
    refine ⟨[], ?_, fun name => ?_⟩
    · simp only [move, post]
      split <;> rfl
    · simp only [move, post]
      split <;> exact Nat.add_comm ..
  | turn r =>
    cases w.finds r with
    | stopped hs hbegins hmove => exact ⟨[], .nothing hmove hbegins⟩
    | run run hs hr hbegins => exact Tells.turn_run hs hr hbegins
    | nothing hs hr hq hbegins hmove => exact ⟨[], .nothing hmove hbegins⟩
    | shutdown rest hs hr hq hbegins hmove =>
      refine ⟨[], congrArg (·.engine.profiler) hmove, fun name => ?_⟩
      rw [hmove, hbegins]
      exact Nat.add_comm ..
    | command c rest hs hr hq hc hbegins => exact Tells.turn_command hs hr hq hc hbegins

/-- All that the worker tells the profiler: records of the commands that it handled, and no others. -/
theorem after_tells (w : Worker) (moves : List Move) :
    ∃ ops, (w.after moves).engine.profiler = w.engine.profiler.after ops ∧ ∀ name,
      timesRecorded name ops + (w.after moves).unrecorded name = w.unrecorded name + handledAs name (w.log moves) := by
  induction moves generalizing w with
  | nil => exact ⟨[], rfl, fun name => Nat.add_comm ..⟩
  | cons m moves ih =>
    obtain ⟨ops, hfirst, hfirstCount⟩ := w.move_tells m
    obtain ⟨ops', hrest, hrestCount⟩ := ih (w.move m)
    refine ⟨ops ++ ops', ?_, fun name => ?_⟩
    · rw [Profiler.after_append, ← hfirst]
      exact hrest
    · have hlog : handledAs name (w.log (m :: moves)) =
          handledAs name (w.begins m).toList + handledAs name ((w.move m).log moves) := handledAs_append ..
      have hafter : w.after (m :: moves) = (w.move m).after moves := rfl
      have hcount := hfirstCount name
      have hcount' := hrestCount name
      rw [timesRecorded_append, hlog, hafter]
      omega

end Worker

/-- A profile ends with a report if and only if it was started after it last ended; the report names what the profile
was started for, with as many records of each as were made since. The records of a worker's engine are those of the
commands that it handled, one each, but for a deferred batch that is not yet closed. -/
theorem profiles_count_records :
    (∀ ops id now memory, ((Profiler.after {} ops).finish now id memory).1.isSome ↔ IsOpen ops id) ∧
    (∀ ops id now memory report, ((Profiler.after {} ops).finish now id memory).1 = some report →
      ∃ operations since, LastStarted ops id operations since ∧
        (∀ name, name ∈ report.operations ↔ Followed operations ops name) ∧
        ∀ name profiled, report.operations[name]? = some profiled → profiled.count = timesRecorded name since) ∧
    ∀ (w : Worker) moves, ∃ ops, (w.after moves).engine.profiler = w.engine.profiler.after ops ∧ ∀ name,
      timesRecorded name ops + (w.after moves).unrecorded name =
        w.unrecorded name + Worker.handledAs name (w.log moves) :=
  ⟨fun ops id now memory => Profiler.finish_isSome ops id now memory,
    fun ops id _ _ _ h => Profiler.finish_report ops id h,
    Worker.after_tells⟩

end CodeGraph
