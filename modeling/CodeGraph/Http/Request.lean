import CodeGraph.Engine.Command
import CodeGraph.Http.Body
import CodeGraph.Http.MediaType
import CodeGraph.Http.Target
import CodeGraph.Service.Basic
/-! Requests to the service over HTTP, and what each of them asks for. -/
namespace CodeGraph

structure Request where
  method : String
  target : String
  contentType : Option String := none
  body : String := ""

structure Response where
  status : Nat
  body : Option Json := none

namespace Response

def json (body : Json) : Response := ⟨200, some body⟩

def failure (status : Nat) (code message : String) : Response :=
  ⟨status, some (.obj [("error", .obj [("code", .str code), ("message", .str message)])])⟩

end Response

/-- What a request asks for. -/
inductive Call where
  | health
  | nodeInfo (id : String)
  | removeNode (id : String)
  | edgesOf (id : String)
  | insights
  | performance
  | history
  | analysis (path : String)
  | search (term : String)
  | searchResults
  | filter (conditions : NodeFilter)
  | batch (items : List Json)
  | outboundEvents (since : Nat)
  | inboundEvent (event : InboundEvent) (payload : Json)
  | edit (document : Document)
  | startProfile (id : String) (operations : List String)
  | endProfile (id : String)
  | agentContext (request : ContextRequest)
  | reportError (message : String) (stack : Option String)

/-- What a path stands for; the parts of it that vary are still encoded. -/
inductive Resource where
  | health
  | node (id : List Char)
  | nodeEdges (id : List Char)
  | insights
  | performance
  | history
  | analysis (path : List Char)
  | search
  | searchResults
  | filter
  | batch
  | outboundEvents
  | inboundEvents (event : List Char)
  | document
  | profile (id : List Char)
  | agentContext
  | errors
  deriving DecidableEq

namespace Resource

/-- The last part of a path may vary only if it is not empty. -/
def varying (part : List Char) (resource : List Char → Resource) : Option Resource :=
  if part.isEmpty then none else some (resource part)

def ofPath? (t : Target) : Option Resource := do
  let segments ← t.segments?
  match segments.map String.ofList, segments with
  | ["healthz"], _ => some health
  | ["v1", "nodes", _], [_, _, id] => varying id node
  | ["v1", "nodes", _, "edges"], [_, _, id, _] => some (nodeEdges id)
  | ["v1", "insights"], _ => some insights
  | ["v1", "performance"], _ => some performance
  | ["v1", "history"], _ => some history
  | "v1" :: "analysis" :: _, _ :: _ :: rest => varying (['/'].intercalate rest) analysis
  | ["v1", "search"], _ => some search
  | ["v1", "search", "results"], _ => some searchResults
  | ["v1", "filter"], _ => some filter
  | ["v1", "batch"], _ => some batch
  | ["v1", "events", "outbound"], _ => some outboundEvents
  | ["v1", "events", _], [_, _, event] => varying event inboundEvents
  | ["v1", "editor", "content"], _ => some document
  | ["v1", "profiles", _], [_, _, id] => varying id profile
  | ["v1", "agents", "context"], _ => some agentContext
  | ["v1", "errors"], _ => some errors
  | _, _ => none

end Resource

namespace Request

def refuse (status : Nat) : Except Response α := .error ⟨status, none⟩

def decoded (part : List Char) : Except Response String :=
  match Target.decode? part with
  | some s => .ok s
  | none => refuse 400

def bodyOf (r : Request) (shape : Shape) (read : Reader α) : Except Response α :=
  match readBody shape read r.body with
  | .ok a => .ok a
  | .error .malformed => refuse 400
  | .error .mismatched => refuse 422

/-- A body that is read has two mebibytes at most. -/
def maxBodyBytes : Nat := 2 * 1024 * 1024

/-- The body of a request, which must be said to be JSON. -/
def jsonBody (r : Request) (shape : Shape) (read : Reader α) : Except Response α :=
  if !r.contentType.any MediaType.isJson then refuse 415
  else if maxBodyBytes < r.body.utf8ByteSize then refuse 413
  else r.bodyOf shape read

def textList : Shape := .list .text

def termShape : Shape := .record [⟨"term", .text, true⟩]
def readTerm : Reader String := (Record.required "term" Reader.string).read "SearchRequest"

def rangeShape : Shape := .nullable (.record [⟨"min", .nullable .number, false⟩, ⟨"max", .nullable .number, false⟩])

def filterShape : Shape :=
  .record [⟨"types", textList, false⟩, ⟨"complexity", rangeShape, false⟩, ⟨"coverage", rangeShape, false⟩,
    ⟨"maintainability", rangeShape, false⟩, ⟨"patterns", textList, false⟩, ⟨"smells", textList, false⟩,
    ⟨"vulnerabilities", textList, false⟩]

def documentShape : Shape := .record [⟨"path", .text, true⟩, ⟨"content", .text, true⟩]

def readDocument : Reader Document :=
  (Document.mk <$> Record.required "path" Reader.string <*> Record.required "content" Reader.string).read
    "EditorContent"

def operationsShape : Shape := .record [⟨"operations", textList, false⟩]

def readOperations : Reader (List String) :=
  (Record.defaulted "operations" (Reader.list Reader.string) []).read "ProfileRequest"

def contextShape : Shape :=
  .record [⟨"agentId", .nullable .text, false⟩, ⟨"taskId", .nullable .text, false⟩,
    ⟨"capabilities", textList, false⟩, ⟨"requiredContext", textList, false⟩, ⟨"relevantFiles", textList, false⟩]

def errorShape : Shape := .record [⟨"message", .text, true⟩, ⟨"stack", .nullable .text, false⟩]

def readError : Reader (String × Option String) :=
  (Prod.mk <$> Record.required "message" Reader.string
    <*> Record.defaulted "stack" (Reader.nullable Reader.string) none).read "ErrorReportRequest"

/-- A batch is given as an array of its items, or as an object with such an array. -/
def batchItems (body : Json) : Except Response (List Json) :=
  match body, body.get? "operations" with
  | .arr items, _ => .ok items
  | _, some (.arr items) => .ok items
  | _, _ => .error (.failure 400 "INVALID_BATCH_REQUEST" "Request must include an `operations` array.")

def inboundEvent (name : String) (payload : Json) : Except Response Call :=
  match InboundEvent.ofName? name with
  | some event => .ok (.inboundEvent event payload)
  | none => .error (.failure 400 "UNKNOWN_EVENT" s!"`{name}` is not an inbound event.")

def edit (document : Document) : Except Response Call :=
  if (Text.trimmed? document.path).isSome then .ok (.edit document)
  else .error (.failure 400 "INVALID_DOCUMENT" "Document path is required.")

/-- The operations that a profile is to follow; without a content type there is no body. -/
def operations (r : Request) : Except Response (List String) :=
  if r.contentType.isNone then .ok [] else r.jsonBody operationsShape readOperations

/-- The call for a resource that is read. -/
def reading (r : Request) : Resource → Except Response Call
  | .health => .ok .health
  | .node id => (decoded id).map .nodeInfo
  | .nodeEdges id => (decoded id).map .edgesOf
  | .insights => .ok .insights
  | .performance => .ok .performance
  | .history => .ok .history
  | .analysis path => (decoded path).map .analysis
  | .searchResults => .ok .searchResults
  | .outboundEvents =>
    match (Target.ofText r.target).natural? "since" with
    | some since => .ok (.outboundEvents since)
    | none => refuse 400
  | _ => refuse 405

def posting (r : Request) : Resource → Except Response Call
  | .search => (r.jsonBody termShape readTerm).map .search
  | .filter => (r.jsonBody filterShape NodeFilter.read).map .filter
  | .batch => do return .batch (← batchItems (← r.jsonBody .any Reader.value))
  | .inboundEvents event => do
    let name ← decoded event
    let payload ← r.jsonBody .any Reader.value
    inboundEvent name payload
  | .document => do edit (← r.jsonBody documentShape readDocument)
  | .profile id => do
    let id ← decoded id
    return .startProfile id (← r.operations)
  | .agentContext => (r.jsonBody contextShape ContextRequest.read).map .agentContext
  | .errors => (r.jsonBody errorShape readError).map fun e => .reportError e.1 e.2
  | _ => refuse 405

def deleting : Resource → Except Response Call
  | .node id => (decoded id).map .removeNode
  | .profile id => (decoded id).map .endProfile
  | _ => refuse 405

/-- What a request asks for. The path is looked at first, then the method, then the parts of the path and the query,
and the body last. -/
def call (r : Request) : Except Response Call :=
  if r.method == "OPTIONS" then refuse 200 else
  match Resource.ofPath? (Target.ofText r.target) with
  | none => refuse 404
  | some resource =>
    if r.method == "GET" || r.method == "HEAD" then r.reading resource
    else if r.method == "POST" then r.posting resource
    else if r.method == "DELETE" then deleting resource
    else refuse 405

end Request
end CodeGraph
