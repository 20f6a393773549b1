import CodeGraph.Wire.Record
/-! Everything that can go wrong, and how it is announced. -/
namespace CodeGraph

/-- Why a request to change the graph is refused. -/
inductive ValidationError where
  | notAnObject (what : String)
  | missingField (what field : String)
  | nonNumericMetric (name : String)
  | invalidField (field message : String)
  | unknownNode (id : String)
  | unknownEdge (source target : String)
  | unsupportedOperation (message : String)
  deriving DecidableEq, Repr

def ValidationError.message : ValidationError → String
  | notAnObject what => s!"{what} payload must be a JSON object"
  | missingField what field => s!"{what} payload is missing required field `{field}`"
  | nonNumericMetric name => s!"metric `{name}` must be numeric"
  | invalidField field message => s!"field `{field}` has an invalid value: {message}"
  | unknownNode id => s!"node not found: {id}"
  | unknownEdge source target => s!"edge not found: {source} -> {target}"
  | unsupportedOperation message => s!"unsupported batch item: {message}"

/-- Why an event did not get out or a request was not answered. -/
inductive TransportError where
  | noResponder (event : String)
  | timeout (event : String) (millis : Nat)
  | emit (event message : String)
  | remote (event message : String)
  deriving DecidableEq, Repr

def TransportError.message : TransportError → String
  | noResponder event => s!"no responder registered for `{event}`"
  | timeout event millis => s!"request `{event}` timed out after {millis}ms"
  | emit event message => s!"emit `{event}` failed: {message}"
  | remote event message => s!"request `{event}` failed: {message}"

structure AnalysisError where
  path : String
  detail : String
  deriving DecidableEq, Repr

def AnalysisError.message (e : AnalysisError) : String := s!"analysis of {e.path} failed: {e.detail}"

/-- What was wrong with a payload of which the rest was used. -/
structure IntegrationError where
  event : String
  anomalies : List String
  deriving DecidableEq, Repr

def IntegrationError.message (e : IntegrationError) : String :=
  let all := "; ".intercalate e.anomalies
  s!"malformed `{e.event}` payload: {all}"

inductive GraphError where
  | validation (cause : ValidationError)
  | transport (cause : TransportError)
  | analysis (cause : AnalysisError)
  | integration (cause : IntegrationError)
  | closed
  deriving DecidableEq, Repr

def GraphError.message : GraphError → String
  | validation cause => s!"Validation error: {cause.message}"
  | transport cause => s!"Transport error: {cause.message}"
  | analysis cause => s!"Analysis error: {cause.message}"
  | integration cause => s!"Integration error: {cause.message}"
  | closed => "graph service is shut down"

inductive ErrorKind where
  | validation
  | integration
  | analysis
  deriving DecidableEq, Repr

def ErrorKind.name : ErrorKind → String
  | validation => "validation"
  | integration => "integration"
  | analysis => "analysis"

def ErrorKind.all : List ErrorKind := [validation, integration, analysis]

def ErrorKind.read : Reader ErrorKind := Reader.choice (all.map fun k => (k.name, k))

/-- What the `error` event carries. -/
structure ErrorEvent where
  kind : ErrorKind
  error : String
  deriving DecidableEq, Repr

namespace ErrorEvent

def record : Record ErrorEvent :=
  ErrorEvent.mk <$> Record.required "type" ErrorKind.read <*> Record.required "error" Reader.string

def read : Reader ErrorEvent := record.read "ErrorEvent"

def write (e : ErrorEvent) : Json :=
  .obj [("error", .str e.error), ("type", .str e.kind.name)]

end ErrorEvent

/-- The event that announces an error; trouble with the transport counts as integration trouble, and a closed
service is not announced. -/
def GraphError.event? : GraphError → Option ErrorEvent
  | validation cause => some ⟨.validation, cause.message⟩
  | transport cause => some ⟨.integration, cause.message⟩
  | analysis cause => some ⟨.analysis, cause.message⟩
  | integration cause => some ⟨.integration, cause.message⟩
  | closed => none

end CodeGraph
