import CodeGraph.Inbound.Noted
import CodeGraph.Graph.Store
/-! Agents as they report themselves: what they can do, what they work on and which files concern them. -/
namespace CodeGraph

structure AgentTask where
  id : Option String := none
  description : Option String := none
  status : Option String := none
  priority : Option String := none
  deriving DecidableEq, Inhabited

namespace AgentTask

def record : Record AgentTask :=
  let text (name : String) := Record.nullable name Reader.string
  AgentTask.mk <$> text "id" <*> text "description" <*> text "status" <*> text "priority"

def read : Reader AgentTask := record.read "AgentTask"

def write (t : AgentTask) : Json :=
  .obj [
    ("description", .ofOption .str t.description),
    ("id", .ofOption .str t.id),
    ("priority", .ofOption .str t.priority),
    ("status", .ofOption .str t.status)]

end AgentTask

/-- Whether a capability is among those listed; the case of ASCII letters does not matter. -/
def hasCapability (capabilities : List String) (name : String) : Bool :=
  let lower (s : String) := s.toList.map Char.toLower
  capabilities.any fun c => lower c == lower name

structure AgentState where
  agentId : String
  agentType : String
  capabilities : List String
  currentTask : Option AgentTask
  relevantFiles : List String
  dependencies : List String
  metrics : Std.ExtTreeMap String Float
  updatedAt : Option Time

namespace AgentState

def taskId (a : AgentState) : Option String := a.currentTask.bind (·.id)

def record : Record AgentState :=
  let names (name : String) := Record.required name (Reader.list Reader.string)
  AgentState.mk <$> Record.required "agentId" Reader.string <*> Record.required "agentType" Reader.string
    <*> names "capabilities" <*> Record.nullable "currentTask" AgentTask.read <*> names "relevantFiles"
    <*> names "dependencies" <*> Record.required "metrics" (Reader.map Reader.float)
    <*> Record.nullable "updatedAt" Reader.time

def read : Reader AgentState := record.read "AgentState"

def write (a : AgentState) : Json :=
  .obj [
    ("agentId", .str a.agentId),
    ("agentType", .str a.agentType),
    ("capabilities", .ofList .str a.capabilities),
    ("currentTask", .ofOption AgentTask.write a.currentTask),
    ("dependencies", .ofList .str a.dependencies),
    ("metrics", .ofMap .float a.metrics),
    ("relevantFiles", .ofList .str a.relevantFiles),
    ("updatedAt", .ofOption .ofTime a.updatedAt)]

def readTask (object : Members) : Noted (Option AgentTask) := do
  let task ← Inbound.nested object "currentTask"
  if task.isNone then return none
  let id ← Inbound.string task "id"
  let description ← Inbound.string task "description"
  let status ← Inbound.string task "status"
  let priority ← Inbound.string task "priority"
  return some { id, description, status, priority }

/-- What a payload says of an agent. -/
def parse (now : Time) (payload : Json) : Noted AgentState := do
  let object ← Inbound.object payload
  let agentId ← Inbound.required object "agentId"
  let agentType ← Inbound.string object "agentType"
  let capabilities ← Inbound.strings object "capabilities"
  let currentTask ← readTask object
  let context ← Inbound.nested object "context"
  let relevantFiles ← Inbound.strings context "relevantFiles"
  let dependencies ← Inbound.strings context "dependencies"
  let measured ← Inbound.nested context "metrics"
  let metrics ← Inbound.numbers measured (measured.getD [])
  return { agentId := agentId.getD "", agentType := agentType.getD "unknown", capabilities, currentTask,
           relevantFiles, dependencies, metrics := Std.ExtTreeMap.ofList metrics, updatedAt := some now }

end AgentState

/-- What is announced about an agent. -/
structure AgentUpdate where
  agentId : String
  agentType : String
  capabilities : List String
  taskId : Option String
  taskStatus : Option String
  currentTask : Option AgentTask
  relevantFiles : List String
  trackedFiles : List String
  anomalies : List String
  deriving DecidableEq

namespace AgentUpdate

def record : Record AgentUpdate :=
  let names (name : String) := Record.required name (Reader.list Reader.string)
  AgentUpdate.mk <$> Record.required "agentId" Reader.string <*> Record.required "agentType" Reader.string
    <*> names "capabilities" <*> Record.nullable "taskId" Reader.string
    <*> Record.nullable "taskStatus" Reader.string <*> Record.nullable "currentTask" AgentTask.read
    <*> names "relevantFiles" <*> names "trackedFiles"
    <*> Record.defaulted "anomalies" (Reader.list Reader.string) []

def read : Reader AgentUpdate := record.read "AgentUpdate"

/-- An empty list of anomalies is left out. -/
def write (u : AgentUpdate) : Json :=
  .obj ([("agentId", .str u.agentId), ("agentType", .str u.agentType)]
    ++ (if u.anomalies.isEmpty then [] else [("anomalies", .ofList .str u.anomalies)]) ++ [
    ("capabilities", .ofList .str u.capabilities),
    ("currentTask", .ofOption AgentTask.write u.currentTask),
    ("relevantFiles", .ofList .str u.relevantFiles),
    ("taskId", .ofOption .str u.taskId),
    ("taskStatus", .ofOption .str u.taskStatus),
    ("trackedFiles", .ofList .str u.trackedFiles)])

/-- The relevant files that are nodes are tracked. -/
def ofState (a : AgentState) (s : Store) (anomalies : List String) : AgentUpdate :=
  { agentId := a.agentId, agentType := a.agentType, capabilities := a.capabilities, taskId := a.taskId
    taskStatus := a.currentTask.bind (·.status), currentTask := a.currentTask, relevantFiles := a.relevantFiles
    trackedFiles := a.relevantFiles.filter s.contains, anomalies }

end AgentUpdate
end CodeGraph
