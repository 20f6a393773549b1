import CodeGraph.Engine.Handle
/-!
The worker of an engine: it takes commands in order of their arrival and works off a deferred batch to its end
before it takes the next. Commands may arrive between any two of its steps.
-/
namespace CodeGraph

structure Worker where
  engine : Engine
  queue : List Command := []
  /-- The deferred batch that is being worked off. -/
  run : Option BatchRun := none
  /-- Set by the command to shut down; what stands behind that in the queue is never handled. -/
  stopped : Bool := false

namespace Worker

/-- Hands over a command; a worker that has stopped takes none. -/
def post (w : Worker) (c : Command) : Worker :=
  if w.stopped then w else { w with queue := w.queue ++ [c] }

def isIdle (w : Worker) : Bool := w.stopped || (w.run.isNone && w.queue.isEmpty)

/-- Tries a chunk of the batch, and closes the batch if that was the last. -/
def stepRun (r : Reading) (w : Worker) (run : BatchRun) : Worker × List Effect :=
  let (engine, run) := w.engine.runChunk r.now run
  if run.isFinished then
    let (engine, effects) := engine.finishBatch r.elapsedNanos run
    ({ w with engine, run := none }, effects)
  else ({ w with engine, run := some run }, [])

def stepCommand (r : Reading) (w : Worker) (c : Command) : Worker × List Effect :=
  match c with
  | .shutdown => ({ w with stopped := true, queue := [] }, [])
  | c =>
    let ((engine, effects), run) := w.engine.handle r c
    ({ w with engine, run }, effects)

/-- The next chunk of the batch, or else the next command. -/
def step (r : Reading) (w : Worker) : Worker × List Effect :=
  if w.stopped then (w, []) else
  match w.run, w.queue with
  | some run, _ => w.stepRun r run
  | none, c :: rest => { w with queue := rest }.stepCommand r c
  | none, [] => (w, [])

/-- An upper bound for the steps until the worker is idle. -/
def work (w : Worker) : Nat :=
  let commandWork : Command → Nat
    | .batch _ items => items.length + 2
    | _ => 1
  total (w.queue.map commandWork) + (w.run.map fun run => run.pending.length + 1).getD 0

end Worker
end CodeGraph
