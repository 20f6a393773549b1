import CodeGraph.Http.Request
import CodeGraph.Service.Calls
/-! Answering requests over HTTP. -/
namespace CodeGraph

namespace Response

def ofError : GraphError → Response
  | .validation cause => failure 400 "VALIDATION_FAILED" cause.message
  | .closed => failure 503 "SERVICE_CLOSED" "Graph service is shut down."
  | other => failure 502 "INTEGRATION_FAILED" other.message

def ofRemoval : Except ValidationError α → Response
  | .ok _ => ⟨204, none⟩
  | .error _ => failure 404 "NODE_NOT_FOUND" "Node not found."

/-- What is found, or that nothing is. -/
def ofOption (write : α → Json) (code message : String) : Option α → Response
  | some a => json (write a)
  | none => failure 404 code message

/-- The answer to a query about something: an id, a path or a term. -/
def ofAnswer (now : Time) (about : String) : Answer → Response
  | .nodeId r => ofRemoval r
  | .edgeKey r => ofRemoval r
  | .removal r => ofRemoval r
  | .edges edges => json (.obj [("edges", .ofList Edge.write edges), ("id", .str about)])
  | .batchApplied report => json report.write
  | .batchDeferred batchId total =>
    ⟨202, some (.obj [("batchId", .str batchId), ("deferred", .bool true), ("total", .nat total)])⟩
  | .nodeInfo info => ofOption NodeInfo.write "NODE_NOT_FOUND" "Node not found." info
  | .insights report => json report.write
  | .health status =>
    json (.obj [("health", status.write), ("ok", .bool (status.state != .unhealthy)), ("timestamp", .ofTime now)])
  | .performance snapshot => json snapshot.write
  | .history changes => json (.obj [("entries", .ofList Change.write changes)])
  | .analysis snapshot =>
    ofOption AnalysisSnapshot.write "ANALYSIS_NOT_CACHED" "No fresh analysis is cached for this path." snapshot
  | .count matched => json (.obj [("matches", .nat matched), ("term", .str about)])
  | .ids ids => json (.obj [("ids", .ofList .str ids)])
  | .nodes nodes => json (.obj [("count", .nat nodes.length), ("nodes", .ofList Node.write nodes)])
  | .profile report => ofOption ProfileReport.write "PROFILE_NOT_FOUND" "Profile not found." report
  | .context slice => json slice.write

end Response

namespace Service

def answerQuery (s : Service) (about : String) (result : Except GraphError Answer × Service) : Response × Service :=
  match result with
  | (.error e, after) => (.ofError e, after)
  | (.ok answer, after) => (.ofAnswer s.now about answer, after)

/-- Does what a request asks for. -/
def carryOut (s : Service) : Call → Response × Service
  | .health => s.answerQuery "" (s.ask .health)
  | .nodeInfo id => s.answerQuery id (s.ask (.nodeInfo id))
  | .removeNode id => s.answerQuery id (s.ask (.removeNode id))
  | .edgesOf id => s.answerQuery id (s.ask (.edgesOf id))
  | .insights => s.answerQuery "" (s.ask .insights)
  | .performance => s.answerQuery "" (s.ask .performance)
  | .history => s.answerQuery "" (s.ask .history)
  | .analysis path => s.answerQuery path (s.ask (.analysis path))
  | .search term => s.answerQuery term (s.ask (.search term))
  | .searchResults => s.answerQuery "" (s.ask .searchResults)
  | .filter conditions => s.answerQuery "" (s.ask (.filter conditions))
  | .batch items => s.answerQuery "" (s.batch items)
  | .outboundEvents since =>
    let events := s.transport.log.since since
    (.json (.obj [("events", .ofList LoggedEvent.write events), ("nextSeq", .nat s.transport.log.next)]), s)
  | .inboundEvent event payload =>
    if s.disposed then (.ofError .closed, s) else
    let (handlers, s) := s.deliver event.name payload
    (⟨202, some (.obj [("event", .str event.name), ("handlers", .nat handlers)])⟩, s)
  | .edit document => (⟨202, some (.obj [("path", .str document.path)])⟩, s.edit document)
  | .startProfile id operations =>
    (⟨202, some (.obj [("id", .str id)])⟩, s.post (.startProfile id operations))
  | .endProfile id => s.answerQuery id (s.ask (.endProfile id))
  | .agentContext request => s.answerQuery "" (s.ask (.agentContext request))
  | .reportError message stack => (⟨202, none⟩, s.post (.reportError message stack))

/-- Answers a request; one that asks for the head only gets no body. -/
def serve (s : Service) (r : Request) : Response × Service :=
  let (response, s) := match r.call with
    | .error response => (response, s)
    | .ok call => s.carryOut call
  (if r.method == "HEAD" then { response with body := none } else response, s)

end Service
end CodeGraph
