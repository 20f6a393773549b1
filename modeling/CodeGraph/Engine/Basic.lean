import CodeGraph.Config
import CodeGraph.Engine.Command
/-!
The engine's state: the stored graph, what is remembered beside it, and who is to be told. Caches never outlive what
they were computed from: after every command and every chunk of a batch the metrics of changed nodes are dropped.
-/
namespace CodeGraph

structure Subscribers where
  errors : List Subscriber := []
  agents : List Subscriber := []
  projects : List Subscriber := []

namespace Subscribers

def add (s : Subscribers) (subscriber : Subscriber) : Topic → Subscribers
  | .errors => { s with errors := s.errors ++ [subscriber] }
  | .agents => { s with agents := s.agents ++ [subscriber] }
  | .projects => { s with projects := s.projects ++ [subscriber] }

end Subscribers

structure Engine where
  config : Config
  store : Store
  derivedCache : Cache DerivedMetrics
  analysisCache : Cache AnalysisSnapshot
  profiler : Profiler := {}
  searchResults : StringSet := ∅
  /-- The newest content change of each path whose analysis is still awaited. -/
  pendingAnalyses : Std.ExtTreeMap String Nat := ∅
  analysisSeq : Nat := 0
  agents : Std.ExtTreeMap String AgentState := ∅
  project : ProjectInsights := {}
  recentErrors : List ErrorAnalysis := []
  subscribers : Subscribers := {}

/-- What becomes of the engine, and what it wants done. -/
abbrev Outcome := Engine × List Effect

namespace Engine

def empty (config : Config) : Engine :=
  { config
    store := .empty config.changeHistoryLimit
    derivedCache := .empty config.cacheCapacity config.cacheMaxAgeNanos
    analysisCache := .empty config.cacheCapacity config.cacheMaxAgeNanos }

/-- Bytes of the stored graph. -/
def footprint (e : Engine) : Nat := e.store.bytes e.config.recordSizes

def emitError (e : GraphError) : List Effect :=
  (e.event?.map fun event => Effect.emit .error event.write).toList

/-- Announces what was wrong with an event, if anything was. -/
def flagAnomalies (event : String) (anomalies : List String) : List Effect :=
  if anomalies.isEmpty then [] else emitError (.integration ⟨event, anomalies⟩)

/-- Tells all subscribers in order; failures are announced together. -/
def tellAll (subscribers : List Subscriber) (event : OutboundEvent) (value : Json) : List Effect :=
  let failed := (subscribers.filter (·.fails)).length
  subscribers.map (fun s => Effect.tell s.label value)
    ++ if failed = 0 then [] else flagAnomalies event.name [s!"{failed} subscriber callback(s) panicked"]

/-- Notifies the agents to which a path is relevant, in order of their ids. -/
def notifyAgents (e : Engine) (path reason : String) (details : Json) : List Effect :=
  let concerned := (e.agents.toList.map (·.2)).filter (·.relevantFiles.contains path)
  concerned.map fun a => .emit .agentNotification (.obj [
    ("agentId", .str a.agentId),
    ("details", details),
    ("path", .str path),
    ("reason", .str reason),
    ("taskId", .ofOption .str a.taskId)])

/-- Drops what is remembered of a removed node; an analysis of it that is under way will be ignored. -/
def forgetNode (e : Engine) (id : String) : Engine :=
  { e with
    pendingAnalyses := e.pendingAnalyses.erase id
    analysisCache := (e.analysisCache.invalidate id).1
    searchResults := e.searchResults.erase id }

/-- Drops the derived metrics of all nodes that changed. -/
def dropDirty (e : Engine) : Engine :=
  let (ids, store) := e.store.takeDirty
  { e with store, derivedCache := ids.toList.foldl (fun c id => (c.invalidate id).1) e.derivedCache }

def recentErrorLimit : Nat := 100

def rememberError (e : Engine) (a : ErrorAnalysis) : Engine :=
  let errors := e.recentErrors ++ [a]
  { e with recentErrors := errors.drop (errors.length - recentErrorLimit) }

end Engine
end CodeGraph
