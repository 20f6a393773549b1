import CodeGraph.Engine.Analysis
import CodeGraph.Update.Dependencies
/-! Events from outside. What is wrong with one is announced; an event of another name is ignored. -/
namespace CodeGraph.Engine

def dependenciesChanged (now : Time) (e : Engine) (payload : Json) : Outcome :=
  match DependencyChange.parse payload with
  | .error fault => (e, emitError (.validation fault))
  | .ok change =>
    let (store, changed) := change.apply now payload e.store
    let e := { e with store }
    if changed.isEmpty then (e, [])
    else (e, e.notifyAgents change.path "dependencies" (.obj [("dependencies", .ofList .str change.dependencies)]))

def analysisUpdated (now : Time) (e : Engine) (payload : Json) : Outcome :=
  match AnalysisUpdate.parse now payload with
  | .error fault => (e, emitError (.validation fault))
  | .ok update => ({ e with store := (update.apply now payload e.store).1 }, [])

def errorDetected (r : Reading) (e : Engine) (payload : Json) : Outcome :=
  let report := ErrorReport.parse r.freshId payload
  let analysis := ErrorAnalysis.ofReport r.now report.value e.store report.anomalies
  (e.rememberError analysis,
    .emit .errorAnalysis analysis.write :: tellAll e.subscribers.errors .errorAnalysis analysis.write
      ++ flagAnomalies InboundEvent.errorDetected.name report.anomalies)

/-- An error of the host program itself. -/
def reportError (r : Reading) (e : Engine) (message : String) (stack : Option String) : Outcome :=
  let report := ErrorReport.ofMessage r.freshId message stack
  let analysis := { ErrorAnalysis.ofReport r.now report e.store [] with message := some message }
  (e.rememberError analysis,
    .emit .reportError analysis.write :: tellAll e.subscribers.errors .errorAnalysis analysis.write)

/-- An agent without an id is announced but not remembered. -/
def agentUpdate (now : Time) (e : Engine) (payload : Json) : Outcome :=
  let state := AgentState.parse now payload
  let update := AgentUpdate.ofState state.value e.store state.anomalies
  let id := state.value.agentId
  let e := if id.isEmpty then e else { e with agents := e.agents.insert id state.value }
  (e, .emit .agentUpdate update.write :: tellAll e.subscribers.agents .agentUpdate update.write
    ++ flagAnomalies InboundEvent.agentUpdate.name state.anomalies)

def projectUpdate (now : Time) (e : Engine) (payload : Json) : Outcome :=
  let update := ProjectUpdate.parse now e.config.projectRoot payload
  let e := { e with store := (update.apply now e.store).1, project := update.insights }
  (e, .emit .projectUpdate update.write :: tellAll e.subscribers.projects .projectUpdate update.write
    ++ flagAnomalies InboundEvent.projectUpdate.name update.anomalies)

def fileChanged (e : Engine) (payload : Json) : Outcome :=
  match ContentChange.parse payload with
  | .error fault => (e, emitError (.validation fault))
  | .ok change => e.contentChanged change.path change.content

def inbound (r : Reading) (e : Engine) (event : String) (payload : Json) : Outcome :=
  match InboundEvent.ofName? event with
  | none => (e, [])
  | some .fileChanged => e.fileChanged payload
  | some .dependenciesChanged => e.dependenciesChanged r.now payload
  | some .analysisUpdated => e.analysisUpdated r.now payload
  | some .errorDetected => e.errorDetected r payload
  | some .agentUpdate => e.agentUpdate r.now payload
  | some .projectUpdate => e.projectUpdate r.now payload

end CodeGraph.Engine
