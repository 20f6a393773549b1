import CodeGraph.Inbound.Noted
import CodeGraph.ErrorReport.Reference
import CodeGraph.Graph.Store
/-! Reports of errors in the observed program, and which nodes they affect. -/
namespace CodeGraph

structure ErrorLocation where
  file : Option String := none
  line : Option Nat := none
  column : Option Nat := none
  deriving DecidableEq, Inhabited

namespace ErrorLocation

def record : Record ErrorLocation :=
  let count (name : String) := Record.nullable name (Reader.natural 64 "u64")
  ErrorLocation.mk <$> Record.nullable "file" Reader.string <*> count "line" <*> count "column"

def read : Reader ErrorLocation := record.read "ErrorLocation"

def write (l : ErrorLocation) : Json :=
  .obj [
    ("column", .ofOption .nat l.column),
    ("file", .ofOption .str l.file),
    ("line", .ofOption .nat l.line)]

end ErrorLocation

structure ErrorReport where
  errorId : String
  errorType : String
  stackTrace : List String
  context : ErrorLocation
  severity : String
  relatedNodes : List String
  suggestedFixes : List String
  deriving DecidableEq

namespace ErrorReport

def defaultSeverity : String := "error"

/-- A count that is not negative, its fraction dropped; beyond 64 bits the greatest is taken. -/
def count? (x : Option Float) : Option Nat :=
  (x.filter (· ≥ 0)).map fun x => x.toUInt64.toNat

/-- What a payload says of an error; one without an id is given `freshId`. -/
def parse (freshId : String) (payload : Json) : Noted ErrorReport := do
  let object ← Inbound.object payload
  let errorId ← Inbound.required object "errorId"
  let errorType ← Inbound.required object "errorType"
  let severity ← Inbound.string object "severity"
  let stackTrace ← Inbound.strings object "stackTrace"
  let relatedNodes ← Inbound.strings object "relatedNodes"
  let suggestedFixes ← Inbound.strings object "suggestedFixes"
  let place ← Inbound.nested object "context"
  let line ← Inbound.number place "line"
  let column ← Inbound.number place "column"
  let file ← Inbound.string place "file"
  return { errorId := errorId.getD freshId, errorType := errorType.getD "unknown", stackTrace
           context := { file, line := count? line, column := count? column }
           severity := severity.getD defaultSeverity, relatedNodes, suggestedFixes }

/-- The number that decimal digits spell, if it fits 64 bits and all of them are ASCII. -/
def decimal? (ds : List Char) : Option Nat :=
  if ds.all Char.isDigit then
    let n := ds.foldl (fun n c => n * 10 + (c.toNat - '0'.toNat)) 0
    if n < Nat.pow 2 64 then some n else none
  else none

/-- The column that follows a line number. -/
def column? (rest : List Char) : Option Nat :=
  match rest with
  | ':' :: after =>
    let ds := after.takeWhile Text.isDigit
    if ds.isEmpty then none else decimal? ds
  | _ => none

def location? (line : String) : Option ErrorLocation :=
  (Reference.firstPlace? line.toList).map fun p =>
    { file := some (String.ofList p.file), line := decimal? p.line, column := column? p.rest }

/-- What stands before the first colon of a message, if it is one word. -/
def typeOf (message : String) : String :=
  let cs := message.toList
  let kind := Text.trimChars (cs.takeWhile (· != ':'))
  if cs.contains ':' && !kind.isEmpty && !kind.any Text.isBlank then String.ofList kind else "Error"

/-- The report of an error given by its message and stack; its location is the first that the stack shows. -/
def ofMessage (freshId message : String) (stack : Option String) : ErrorReport :=
  let stackTrace := Inbound.textLines (stack.getD "")
  { errorId := freshId, errorType := typeOf message, stackTrace
    context := (stackTrace.findSome? location?).getD {}
    severity := defaultSeverity, relatedNodes := [], suggestedFixes := [] }

/-- Every file that the report refers to. -/
def references (r : ErrorReport) : List String :=
  Reference.ofStack r.stackTrace ++ (r.context.file.map Reference.normalize).toList

def refersTo (r : ErrorReport) (n : Node) : Bool :=
  r.references.any fun f => Reference.pathMatches n.path f || Reference.pathMatches n.id f

end ErrorReport

structure ErrorAnalysis where
  errorId : String
  errorType : String
  severity : String
  affectedNodes : List String
  suggestedFixes : List String
  context : ErrorLocation
  message : Option String
  anomalies : List String
  analyzedAt : Option Time
  deriving DecidableEq

namespace ErrorAnalysis

def record : Record ErrorAnalysis :=
  let names (name : String) := Record.required name (Reader.list Reader.string)
  ErrorAnalysis.mk <$> Record.required "errorId" Reader.string <*> Record.required "errorType" Reader.string
    <*> Record.required "severity" Reader.string <*> names "affectedNodes" <*> names "suggestedFixes"
    <*> Record.required "context" ErrorLocation.read
    <*> Record.defaulted "message" (Reader.nullable Reader.string) none
    <*> Record.defaulted "anomalies" (Reader.list Reader.string) []
    <*> Record.nullable "analyzedAt" Reader.time

def read : Reader ErrorAnalysis := record.read "ErrorAnalysis"

/-- A missing message and an empty list of anomalies are left out. -/
def write (a : ErrorAnalysis) : Json :=
  .obj ([("affectedNodes", .ofList .str a.affectedNodes), ("analyzedAt", .ofOption .ofTime a.analyzedAt)]
    ++ (if a.anomalies.isEmpty then [] else [("anomalies", .ofList .str a.anomalies)])
    ++ [("context", a.context.write), ("errorId", .str a.errorId), ("errorType", .str a.errorType)]
    ++ (a.message.map fun m => ("message", Json.str m)).toList
    ++ [("severity", .str a.severity), ("suggestedFixes", .ofList .str a.suggestedFixes)])

/-- The related nodes as reported, then the other nodes that the report refers to, in order of their ids. -/
def affected (r : ErrorReport) (s : Store) : List String :=
  let inferred := (s.nodeList.filter r.refersTo).map (·.id)
  r.relatedNodes ++ inferred.filter fun id => !r.relatedNodes.contains id

def ofReport (now : Time) (r : ErrorReport) (s : Store) (anomalies : List String) : ErrorAnalysis :=
  { errorId := r.errorId, errorType := r.errorType, severity := r.severity, affectedNodes := affected r s
    suggestedFixes := r.suggestedFixes, context := r.context, message := none, anomalies, analyzedAt := some now }

end ErrorAnalysis
end CodeGraph
