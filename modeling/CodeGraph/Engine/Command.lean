import CodeGraph.Agent.Context
import CodeGraph.Batch.Run
import CodeGraph.Engine.Derived
import CodeGraph.Engine.Event
import CodeGraph.Engine.Health
import CodeGraph.ErrorReport.Basic
import CodeGraph.Query.Filter
/-! What the engine is told to do, and what comes of it. -/
namespace CodeGraph

/-- What is asked of the engine and answered. -/
inductive Query where
  | upsertNode (data : Json)
  | upsertEdge (data : Json)
  | removeNode (id : String)
  | removeEdge (source target : String)
  | edgesOf (id : String)
  | nodeInfo (id : String)
  | insights
  | health
  | performance
  | history
  | analysis (path : String)
  | search (term : String)
  | searchResults
  | filter (conditions : NodeFilter)
  | endProfile (id : String)
  | agentContext (request : ContextRequest)
  /-- The context of a task as the agents' own system names it. -/
  | refreshContext (agentId taskId : String)

inductive Answer where
  | nodeId (result : Except ValidationError String)
  | edgeKey (result : Except ValidationError EdgeKey)
  | removal (result : Except ValidationError Unit)
  | edges (edges : List Edge)
  | batchApplied (report : BatchReport)
  | batchDeferred (batchId : String) (total : Nat)
  | nodeInfo (info : Option NodeInfo)
  | insights (report : ProjectReport)
  | health (status : HealthStatus)
  | performance (snapshot : PerformanceSnapshot)
  | history (changes : List Change)
  | analysis (snapshot : Option AnalysisSnapshot)
  | count (matched : Nat)
  | ids (ids : List String)
  | nodes (nodes : List Node)
  | profile (report : Option ProfileReport)
  | context (slice : ContextSlice)

/-- Identifies who waits for an answer. -/
abbrev Ticket := Nat

/-- What the answer to an outbound request is for. -/
inductive Purpose where
  | analysis (path : String) (seq : Nat)
  | context (ticket : Ticket) (request : ContextRequest)
  | project

/-- What subscribers can be told about. -/
inductive Topic where
  | errors
  | agents
  | projects
  deriving DecidableEq, Repr

/-- Somebody to be told, known by a label; one that fails does so each time, after it was told. -/
structure Subscriber where
  label : String
  fails : Bool := false
  deriving DecidableEq, Repr

inductive Command where
  | announce
  | inbound (event : String) (payload : Json)
  | contentChanged (path content : String)
  | analysisDue (path : String) (seq : Nat) (content : String)
  | answered (purpose : Purpose) (result : Except TransportError Json)
  | ask (ticket : Ticket) (query : Query)
  | batch (ticket : Ticket) (items : List Json)
  | startProfile (id : String) (operations : List String)
  | subscribe (topic : Topic) (subscriber : Subscriber)
  | reportError (message : String) (stack : Option String)
  | requestProject
  | optimizeCaches
  | shutdown

/-- What the engine wants done outside, in this order. -/
inductive Effect where
  | emit (event : OutboundEvent) (payload : Json)
  | tell (label : String) (value : Json)
  /-- To come back with the content when the debounce interval is over. -/
  | delay (path : String) (seq : Nat) (content : String)
  | request (event : OutboundEvent) (payload : Json) (purpose : Purpose)
  | answer (ticket : Ticket) (answer : Answer)
  /-- A deferred batch has been tried to its end. -/
  | batchFinished (report : BatchReport)

/-- What handling a command finds outside the engine: the clock, the time it takes, and an id never used before. -/
structure Reading where
  now : Time
  elapsedNanos : Nat
  freshId : String

namespace Query

/-- The name under which time is recorded. -/
def operation : Query → String
  | upsertNode _ => "upsertNode"
  | upsertEdge _ => "upsertEdge"
  | removeNode _ => "removeNode"
  | removeEdge _ _ => "removeEdge"
  | edgesOf _ => "edgesOf"
  | nodeInfo _ => "getNodeInfo"
  | insights => "getProjectInsights"
  | health => "getHealthStatus"
  | performance => "getPerformanceMetrics"
  | history => "getChangeHistory"
  | analysis _ => "getAnalysisCache"
  | search _ => "searchNodes"
  | searchResults => "searchResults"
  | filter _ => "filterNodes"
  | endProfile _ => "endProfile"
  | agentContext _ => "provideAgentContext"
  | refreshContext _ _ => "updateAgentContext"

end Query

namespace Command

def operation : Command → String
  | announce => "initialize"
  | inbound _ _ => "handleEvent"
  | contentChanged _ _ => "contentChanged"
  | analysisDue _ _ _ => "requestAnalysis"
  | answered (.analysis _ _) _ => "applyAnalysis"
  | answered (.context _ _) _ => "applyAgentContext"
  | answered .project _ => "applyProjectPull"
  | ask _ query => query.operation
  | batch _ _ => "batchUpdate"
  | startProfile _ _ => "startProfile"
  | subscribe _ _ => "subscribe"
  | reportError _ _ => "reportError"
  | requestProject => "requestProjectUpdate"
  | optimizeCaches => "optimizeCache"
  | shutdown => "shutdown"

end Command
end CodeGraph
