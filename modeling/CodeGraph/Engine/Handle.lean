import CodeGraph.Engine.Inbound
import CodeGraph.Engine.Query
/-!
Handling commands, one at a time. A batch that is too large to be applied at once is handed back as a run, to be
worked off chunk by chunk before the next command is handled.
-/
namespace CodeGraph.Engine

def announce (now : Time) (e : Engine) : Outcome :=
  (e, [.emit .ready (.obj [
    ("integrations", .ofList .str ["errorAnalysis", "agentSystem", "projectAwareness"]),
    ("projectRoot", .str e.config.projectRoot),
    ("startedAt", .ofTime now),
    ("subscribedEvents", .ofList (fun i => .str i.name) InboundEvent.all)])])

def requestProject (now : Time) (e : Engine) : Outcome :=
  let payload := Json.obj [("projectId", .ofOption .str e.project.projectId), ("requestedAt", .ofTime now)]
  (e, [.request .requestProjectUpdate payload .project])

/-- A reply with a structure is a report on the project. That nobody replies is no error. -/
def projectPulled (now : Time) (e : Engine) (result : Except TransportError Json) : Outcome :=
  match result with
  | .ok payload => if (payload.get? "structure").isSome then e.projectUpdate now payload else (e, [])
  | .error (.noResponder _) => (e, [])
  | .error fault => (e, emitError (.transport fault))

def optimizeCaches (now : Time) (e : Engine) : Engine :=
  { e with
    derivedCache := (e.derivedCache.optimize now.instant).1
    analysisCache := (e.analysisCache.optimize now.instant).1 }

def dispatch (r : Reading) (e : Engine) (c : Command) : Outcome × Option BatchRun :=
  match c with
  | .announce => (e.announce r.now, none)
  | .inbound event payload => (e.inbound r event payload, none)
  | .contentChanged path content => (e.contentChanged path content, none)
  | .analysisDue path seq content => (e.analysisDue path seq content, none)
  | .answered (.analysis path seq) result => (e.analysisFinished r.now path seq result, none)
  | .answered (.context ticket request) result => ((e, e.contextArrived ticket request result), none)
  | .answered .project result => (e.projectPulled r.now result, none)
  | .ask ticket query => (e.query r ticket query, none)
  | .batch ticket items => e.batch r ticket items
  | .startProfile id operations =>
    (({ e with profiler := e.profiler.start r.now id operations e.footprint }, []), none)
  | .subscribe topic subscriber => (({ e with subscribers := e.subscribers.add subscriber topic }, []), none)
  | .reportError message stack => (e.reportError r message stack, none)
  | .requestProject => (e.requestProject r.now, none)
  | .optimizeCaches => ((e.optimizeCaches r.now, []), none)
  | .shutdown => ((e, []), none)

/-- Handles a command. Its time is recorded, unless it starts a run. -/
def handle (r : Reading) (e : Engine) (c : Command) : Outcome × Option BatchRun :=
  match e.dispatch r c with
  | ((e, effects), some run) => ((e.dropDirty, effects), some run)
  | ((e, effects), none) =>
    let e := { e with profiler := e.profiler.record c.operation r.elapsedNanos }
    ((e.dropDirty, effects), none)

/-- Tries the next chunk of a run. -/
def runChunk (now : Time) (e : Engine) (run : BatchRun) : Engine × BatchRun :=
  let (run, store) := run.runChunk now e.config.batchChunkSize e.store
  let (e, run) := { e with store }.forgetRemoved run
  (e.dropDirty, run)

/-- Closes a run that is finished: its time is recorded as that of a batch. -/
def finishBatch (elapsedNanos : Nat) (e : Engine) (run : BatchRun) : Outcome :=
  let report := run.report (OperationStats.millis elapsedNanos)
  ({ e with profiler := e.profiler.record (Command.batch 0 []).operation elapsedNanos },
    announceFailures report ++ [.batchFinished report])

end CodeGraph.Engine
