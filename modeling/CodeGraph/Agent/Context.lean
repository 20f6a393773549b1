import CodeGraph.Agent.State
/-!
The part of the graph an agent may see: the nodes it asks for and the edges among them. Vulnerabilities are shown to
security agents only and smells to refactoring agents only; dependency agents see one hop further.
-/
namespace CodeGraph

def securityCapability : String := "security"
def refactoringCapability : String := "refactoring"
def dependencyCapabilities : List String := ["dependencies", "dependency-analysis"]

structure ContextRequest where
  agentId : Option String := none
  taskId : Option String := none
  capabilities : List String := []
  requiredContext : List String := []
  relevantFiles : List String := []
  deriving DecidableEq, Inhabited

namespace ContextRequest

def record : Record ContextRequest :=
  let text (name : String) := Record.defaulted name (Reader.nullable Reader.string) none
  let names (name : String) := Record.defaulted name (Reader.list Reader.string) []
  ContextRequest.mk <$> text "agentId" <*> text "taskId" <*> names "capabilities" <*> names "requiredContext"
    <*> names "relevantFiles"

def read : Reader ContextRequest := record.read "AgentContextRequest"

def write (r : ContextRequest) : Json :=
  .obj [
    ("agentId", .ofOption .str r.agentId),
    ("capabilities", .ofList .str r.capabilities),
    ("relevantFiles", .ofList .str r.relevantFiles),
    ("requiredContext", .ofList .str r.requiredContext),
    ("taskId", .ofOption .str r.taskId)]

def seesSecurity (r : ContextRequest) : Bool := hasCapability r.capabilities securityCapability
def seesSmells (r : ContextRequest) : Bool := hasCapability r.capabilities refactoringCapability
def seesNeighbours (r : ContextRequest) : Bool := dependencyCapabilities.any (hasCapability r.capabilities)

/-- Adds what the agent has declared about itself. -/
def merge (r : ContextRequest) (known : Option AgentState) : ContextRequest :=
  match known with
  | none => r
  | some a =>
    { r with
      capabilities := r.capabilities ++ a.capabilities
      relevantFiles := r.relevantFiles ++ a.relevantFiles
      requiredContext := r.requiredContext ++ a.dependencies
      taskId := r.taskId.or a.taskId }

/-- The request that a reply names, under `context` if that is an object and else in the reply itself. -/
def ofReply? (reply : Json) : Option ContextRequest :=
  let body := match reply.get? "context" with
    | some (.obj ms) => .obj ms
    | _ => reply
  (read body).toOption

end ContextRequest

structure ContextSlice where
  agentId : Option String := none
  taskId : Option String := none
  nodes : List Node := []
  relationships : List Edge := []
  metrics : Std.ExtTreeMap String Metrics := ∅
  suggestions : List String := []

namespace ContextSlice

def isEmpty (s : ContextSlice) : Bool := s.nodes.isEmpty && s.relationships.isEmpty

def record : Record ContextSlice :=
  ContextSlice.mk <$> Record.nullable "agentId" Reader.string <*> Record.nullable "taskId" Reader.string
    <*> Record.required "nodes" (Reader.list Node.read)
    <*> Record.required "relationships" (Reader.list Edge.read)
    <*> Record.required "metrics" (Reader.map Metrics.read)
    <*> Record.required "suggestions" (Reader.list Reader.string)

def read : Reader ContextSlice := record.read "AgentContextSlice"

def write (s : ContextSlice) : Json :=
  .obj [
    ("agentId", .ofOption .str s.agentId),
    ("metrics", .ofMap Metrics.write s.metrics),
    ("nodes", .ofList Node.write s.nodes),
    ("relationships", .ofList Edge.write s.relationships),
    ("suggestions", .ofList .str s.suggestions),
    ("taskId", .ofOption .str s.taskId)]

end ContextSlice

namespace Store

/-- The existing nodes that a request names. -/
def seeds (s : Store) (r : ContextRequest) : StringSet :=
  addAll ∅ ((r.requiredContext ++ r.relevantFiles).filter s.contains)

/-- The existing nodes one step away from a node. -/
def neighbours (s : Store) (id : String) : List String :=
  let named := match s.node? id with
    | none => []
    | some n => n.dependencies.toList ++ n.relationships.imports.toList ++ n.relationships.uses.toList
        ++ n.relationships.usedBy.toList
  let ends := (s.edgesOf id).flatMap fun e => [e.source, e.target]
  (named ++ ends).filter s.contains

/-- The ids of the nodes that a request reaches. -/
def reach (s : Store) (r : ContextRequest) : StringSet :=
  let seeds := s.seeds r
  if r.seesNeighbours then addAll seeds (seeds.toList.flatMap s.neighbours) else seeds

/-- A node with what the request may not see taken out. -/
def redact (r : ContextRequest) (n : Node) : Node :=
  { n with analysis := { n.analysis with
      vulnerabilities := if r.seesSecurity then n.analysis.vulnerabilities else ∅
      smells := if r.seesSmells then n.analysis.smells else ∅ } }

/-- What is suggested about a node, one suggestion for each finding that may be seen. -/
def suggestionsFor (r : ContextRequest) (n : Node) : List String :=
  let visible := (redact r n).analysis
  n.analysis.suggestions.toList
    ++ visible.vulnerabilities.toList.map (fun v => s!"Address {v} in {n.path}")
    ++ visible.smells.toList.map (fun v => s!"Refactor {v} in {n.path}")

/-- The edges among the given nodes, by node, each where it first occurs. -/
def edgesAmong (s : Store) (ids : StringSet) : List Edge :=
  let all := ids.toList.flatMap s.edgesOf
  let inside := all.filter fun e => ids.contains e.source && ids.contains e.target
  inside.foldl (fun seen e => if seen.any (·.key == e.key) then seen else seen ++ [e]) []

def contextSlice (s : Store) (r : ContextRequest) : ContextSlice :=
  let ids := s.reach r
  let stored := ids.toList.filterMap fun id => (s.node? id).map fun n => (id, n)
  { agentId := r.agentId, taskId := r.taskId
    nodes := stored.map fun e => redact r e.2
    relationships := s.edgesAmong ids
    metrics := Std.ExtTreeMap.ofList (stored.map fun e => (e.1, e.2.metrics))
    suggestions := (addAll ∅ (stored.flatMap fun e => suggestionsFor r e.2)).toList }

end Store
end CodeGraph
