import CodeGraph.Engine.Basic
/-! Answering queries. A refused change is both announced and answered. -/
namespace CodeGraph.Engine

def removeNode (now : Time) (e : Engine) (id : String) : Except ValidationError Engine :=
  match e.store.removeNode now id with
  | .error fault => .error fault
  | .ok (_, store) => .ok ({ e with store }.forgetNode id)

/-- The refusal of a change, announced before it is answered. -/
def refuse (e : Engine) (ticket : Ticket) (fault : ValidationError) (answer : Answer) : Outcome :=
  (e, emitError (.validation fault) ++ [.answer ticket answer])

/-- The information on a node; its derived metrics are taken from the cache where it has them. -/
def nodeInfo (now : Time) (e : Engine) (id : String) : Option NodeInfo × Engine :=
  match e.store.node? id with
  | none => (none, e)
  | some node =>
    let (cached, cache) := e.derivedCache.get? id now.instant
    let (derived, cache) := match cached with
      | some derived => (derived, cache)
      | none =>
        let derived := e.store.derive now node
        (derived, cache.set id derived now.instant)
    (some { node, edges := e.store.edgesOf id, derived }, { e with derivedCache := cache })

def counts (e : Engine) : GraphCounts :=
  { nodes := e.store.nodes.size, edges := e.store.edges.size, danglingEdges := e.store.danglingEdges }

def health (now : Time) (e : Engine) : HealthStatus :=
  .evaluate now (e.derivedCache.stats now.instant) (e.analysisCache.stats now.instant) e.profiler
    e.config.slowOperationNanos e.counts

/-- What an agent may see of the graph, given what it has declared about itself. -/
def agentContext (e : Engine) (request : ContextRequest) : ContextSlice :=
  e.store.contextSlice (request.merge (request.agentId.bind (e.agents[·]?)))

/-- Asks the agents' own system what a task is about. -/
def refreshContext (ticket : Ticket) (agentId taskId : String) : List Effect :=
  let payload := Json.obj [("agentId", .str agentId), ("taskId", .str taskId)]
  [.request .requestAgentContext payload (.context ticket { agentId := some agentId, taskId := some taskId })]

/-- The context that a reply points to; a reply that points to none yields an empty one. -/
def contextArrived (e : Engine) (ticket : Ticket) (request : ContextRequest) (result : Except TransportError Json) :
    List Effect :=
  let empty : ContextSlice := { agentId := request.agentId, taskId := request.taskId }
  match result with
  | .error fault => emitError (.transport fault) ++ [.answer ticket (.context empty)]
  | .ok reply =>
    match ContextRequest.ofReply? reply with
    | none =>
      flagAnomalies OutboundEvent.requestAgentContext.name ["context reply is malformed"]
        ++ [.answer ticket (.context empty)]
    | some found =>
      let pointers := { found with agentId := request.agentId, taskId := request.taskId }
      [.answer ticket (.context (e.agentContext pointers))]

/-- Forgets the nodes that a batch removed since it was last asked. -/
def forgetRemoved (e : Engine) (run : BatchRun) : Engine × BatchRun :=
  let (ids, run) := run.takeRemoved
  (ids.foldl forgetNode e, run)

/-- Announces every item of a batch that failed. -/
def announceFailures (report : BatchReport) : List Effect :=
  report.failed.map fun f =>
    let event : ErrorEvent := ⟨.validation, s!"batch {report.batchId} item {f.index}: {f.error}"⟩
    .emit .error event.write

/-- Applies a batch at once, or starts it if it is too large for that. -/
def batch (r : Reading) (e : Engine) (ticket : Ticket) (items : List Json) : Outcome × Option BatchRun :=
  if items.length > e.config.batchDeferThreshold then
    let run := BatchRun.start r.freshId items true
    ((e, [.answer ticket (.batchDeferred run.batchId run.total)]), some run)
  else
    let run := BatchRun.start r.freshId items false
    let (run, store) := run.runChunk r.now items.length e.store
    let (e, run) := { e with store }.forgetRemoved run
    let report := run.report (OperationStats.millis r.elapsedNanos)
    ((e, announceFailures report ++ [.answer ticket (.batchApplied report)]), none)

def query (r : Reading) (e : Engine) (ticket : Ticket) (q : Query) : Outcome :=
  let answer (e : Engine) (a : Answer) : Outcome := (e, [.answer ticket a])
  match q with
  | .upsertNode data =>
    match e.store.upsertNode r.now data with
    | .error fault => e.refuse ticket fault (.nodeId (.error fault))
    | .ok (id, store) => answer { e with store } (.nodeId (.ok id))
  | .upsertEdge data =>
    match e.store.upsertEdge r.now data with
    | .error fault => e.refuse ticket fault (.edgeKey (.error fault))
    | .ok (key, store) => answer { e with store } (.edgeKey (.ok key))
  | .removeNode id =>
    match e.removeNode r.now id with
    | .error fault => e.refuse ticket fault (.removal (.error fault))
    | .ok e => answer e (.removal (.ok ()))
  | .removeEdge source target =>
    match e.store.removeEdge r.now source target with
    | .error fault => e.refuse ticket fault (.removal (.error fault))
    | .ok (_, store) => answer { e with store } (.removal (.ok ()))
  | .edgesOf id => answer e (.edges (e.store.edgesOf id))
  | .nodeInfo id =>
    let (info, e) := e.nodeInfo r.now id
    answer e (.nodeInfo info)
  | .insights => answer e (.insights (e.store.summarize e.project e.recentErrors.length))
  | .health => answer e (.health (e.health r.now))
  | .performance => answer e (.performance e.profiler.snapshot)
  | .history => answer e (.history e.store.history)
  | .analysis path =>
    let (snapshot, analysisCache) := e.analysisCache.get? path r.now.instant
    answer { e with analysisCache } (.analysis snapshot)
  | .search term =>
    let found := e.store.search term
    answer { e with searchResults := found } (.count found.size)
  | .searchResults => answer e (.ids e.searchResults.toList)
  | .filter conditions => answer e (.nodes (e.store.filterNodes conditions))
  | .endProfile id =>
    let (report, profiler) := e.profiler.finish r.now id e.footprint
    answer { e with profiler } (.profile report)
  | .agentContext request => answer e (.context (e.agentContext request))
  | .refreshContext agentId taskId => (e, refreshContext ticket agentId taskId)

end CodeGraph.Engine
