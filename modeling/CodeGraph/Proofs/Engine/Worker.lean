import Mathlib.Data.List.Induction
import CodeGraph.Engine.Worker
import CodeGraph.Proofs.Engine.BatchItems
/-!
The worker's order. Whatever arrives while a deferred batch is worked off, commands are handled in
order of their arrival, each in the state that the earlier ones and all items of their batches have
left, and none behind the first command to shut down.
-/
namespace CodeGraph

def Command.isShutdown : Command → Bool
  | .shutdown => true
  | _ => false

/-- A command that is handled, what it finds outside the engine, and the engine that it finds. -/
structure Handling where
  reading : Reading
  command : Command
  engine : Engine

namespace Engine

/-- The engine once a command has been handled and a batch that it deferred has been worked off and
closed. -/
def serve (r : Reading) (clock : Nat → Time) (closingNanos : Nat) (e : Engine) (c : Command) : Engine :=
  match (e.handle r c).2 with
  | none => (e.handle r c).1.1
  | some run =>
    let drained := runChunks clock (e.handle r c).1.1 run
      (BatchRun.chunkCount run.pending.length e.config.batchChunkSize)
    (drained.1.finishBatch closingNanos drained.2).1

/-- Commands are handled one after the other, each when the one before has been served. -/
inductive Serves : Engine → List Handling → Engine → Prop where
  | none (e : Engine) : Serves e [] e
  | next {e : Engine} {past : List Handling} (h : Handling) (clock : Nat → Time) (closingNanos : Nat) :
    Serves e past h.engine →
      Serves e (past ++ [h]) (h.engine.serve h.reading clock closingNanos h.command)

/-- Serving a batch comes to trying its items one at a time. -/
theorem serve_batch (r : Reading) (clock clock' : Nat → Time) (closingNanos : Nat) (e : Engine) (ticket : Ticket)
    (items : List Json) :
    SameButClock (e.serve r clock closingNanos (.batch ticket items)) (tryEach clock' 0 items e.dropDirty).1 := by
  obtain ⟨-, -, -, -, hinline, hdeferred⟩ := batch_tries_each_item e r ticket items clock' clock closingNanos
  by_cases h : items.length ≤ e.config.batchDeferThreshold
  · obtain ⟨hsame, hrun, -⟩ := hinline h
    simp only [serve, hrun]
    exact hsame
  · obtain ⟨hrun, -, -, hsame, -⟩ := hdeferred (by omega)
    simp only [serve, hrun]
    exact hsame

theorem runChunks_congr {clock clock' : Nat → Time} {n : Nat} (h : ∀ i < n, clock' i = clock i) (e : Engine)
    (run : BatchRun) : runChunks clock' e run n = runChunks clock e run n := by
  induction n with
  | zero => rfl
  | succ n ih => rw [runChunks, runChunks, ih fun i hi => h i (by omega), h n (by omega)]

end Engine

namespace Worker

/-- Somebody hands over a command, or the worker takes a step. -/
inductive Move where
  | post (c : Command)
  | turn (r : Reading)

def move (w : Worker) : Move → Worker
  | .post c => w.post c
  | .turn r => (w.step r).1

def after (w : Worker) (moves : List Move) : Worker := moves.foldl move w

/-- The command that the worker begins to handle. -/
def begins (w : Worker) : Move → Option Handling
  | .post _ => none
  | .turn r =>
    if w.stopped then none else
    match w.run, w.queue with
    | none, c :: _ => if c.isShutdown then none else some ⟨r, c, w.engine⟩
    | _, _ => none

/-- All that the worker handles, in order. -/
def log (w : Worker) : List Move → List Handling
  | [] => []
  | m :: rest => (w.begins m).toList ++ (w.move m).log rest

/-- What is handed over, in order. -/
def posted (moves : List Move) : List Command :=
  moves.filterMap fun
    | .post c => some c
    | .turn _ => none

theorem after_concat (w : Worker) (moves : List Move) (m : Move) :
    w.after (moves ++ [m]) = (w.after moves).move m := List.foldl_append

theorem log_append (w : Worker) (xs ys : List Move) : w.log (xs ++ ys) = w.log xs ++ (w.after xs).log ys := by
  induction xs generalizing w with
  | nil => rfl
  | cons m xs ih =>
    rw [List.cons_append, log, ih, log, List.append_assoc]
    rfl

theorem log_concat (w : Worker) (moves : List Move) (m : Move) :
    w.log (moves ++ [m]) = w.log moves ++ ((w.after moves).begins m).toList := by
  rw [log_append, log, log, List.append_nil]

section Turn
variable {w : Worker} {r : Reading}

theorem turn_stopped (h : w.stopped = true) : w.move (.turn r) = w := by
  simp only [move, step, h, if_true]

theorem turn_idle (hs : w.stopped = false) (hr : w.run = none) (hq : w.queue = []) : w.move (.turn r) = w := by
  simp [move, step, hs, hr, hq]

theorem turn_shutdown {rest : List Command} (hs : w.stopped = false) (hr : w.run = none)
    (hq : w.queue = .shutdown :: rest) : w.move (.turn r) = { w with stopped := true, queue := [] } := by
  simp [move, step, hs, hr, hq, stepCommand]

theorem turn_command {c : Command} {rest : List Command} (hs : w.stopped = false) (hr : w.run = none)
    (hq : w.queue = c :: rest) (hc : c.isShutdown = false) : w.move (.turn r) =
      { w with engine := (w.engine.handle r c).1.1, queue := rest, run := (w.engine.handle r c).2 } := by
  simp only [move, step, hs, hr, hq, Bool.false_eq_true, if_false]
  cases c with
  | shutdown => cases hc
  | _ => rfl

theorem turn_run {run : BatchRun} (hs : w.stopped = false) (hr : w.run = some run) :
    w.move (.turn r) =
      if (w.engine.runChunk r.now run).2.isFinished then
        { w with
          engine := ((w.engine.runChunk r.now run).1.finishBatch r.elapsedNanos (w.engine.runChunk r.now run).2).1
          run := none }
      else { w with engine := (w.engine.runChunk r.now run).1, run := some (w.engine.runChunk r.now run).2 } := by
  simp only [move, step, hs, hr, Bool.false_eq_true, if_false, stepRun]
  split <;> rfl

/-- What a worker may find when it takes a step. -/
inductive Finds (w : Worker) (r : Reading) : Prop where
  | stopped : w.stopped = true → w.begins (.turn r) = none → w.move (.turn r) = w → Finds w r
  | run (run : BatchRun) : w.stopped = false → w.run = some run → w.begins (.turn r) = none → Finds w r
  | nothing : w.stopped = false → w.run = none → w.queue = [] → w.begins (.turn r) = none →
    w.move (.turn r) = w → Finds w r
  | shutdown (rest : List Command) : w.stopped = false → w.run = none → w.queue = .shutdown :: rest →
    w.begins (.turn r) = none → w.move (.turn r) = { w with stopped := true, queue := [] } → Finds w r
  | command (c : Command) (rest : List Command) : w.stopped = false → w.run = none → w.queue = c :: rest →
    c.isShutdown = false → w.begins (.turn r) = some ⟨r, c, w.engine⟩ → Finds w r

theorem finds (w : Worker) (r : Reading) : Finds w r := by
  cases hs : w.stopped with
  | true => exact .stopped hs (by simp [begins, hs]) (turn_stopped hs)
  | false =>
    cases hr : w.run with
    | some run => exact .run run hs hr (by simp [begins, hs, hr])
    | none =>
      cases hq : w.queue with
      | nil => exact .nothing hs hr hq (by simp [begins, hs, hr, hq]) (turn_idle hs hr hq)
      | cons c rest =>
        cases hc : c.isShutdown with
        | true =>
          have hshut : c = .shutdown := by
            cases c with
            | shutdown => rfl
            | _ => cases hc
          rw [hshut] at hq
          exact .shutdown rest hs hr hq (by simp [begins, hs, hr, hq, Command.isShutdown]) (turn_shutdown hs hr hq)
        | false => exact .command c rest hs hr hq hc (by simp [begins, hs, hr, hq, hc])

end Turn

end Worker
end CodeGraph
