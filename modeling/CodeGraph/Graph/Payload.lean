import CodeGraph.Error
import CodeGraph.Graph.Node
import CodeGraph.Graph.Edge
/-!
Reading the payloads that ask for a node or an edge. A field that is `null` counts as absent; ids and ends are
trimmed and may not be blank.
-/
namespace CodeGraph

namespace Payload

def invalid (field message : String) : Except ValidationError α := .error (.invalidField field message)

/-- A text that is not blank, trimmed. -/
def requiredText (members : List (String × Json)) (what field : String) : Except ValidationError String :=
  match (members.lookup field).bind Json.str? |>.bind Text.trimmed? with
  | some s => .ok s
  | none => .error (.missingField what field)

def optionalText (members : List (String × Json)) (field : String) : Except ValidationError (Option String) :=
  match Json.present? members field with
  | none => .ok none
  | some (.str s) => .ok (some s)
  | some _ => invalid field "expected a string"

def texts (field : String) : List Json → Except ValidationError (List String)
  | [] => .ok []
  | .str s :: rest => (texts field rest).map (s :: ·)
  | _ :: _ => invalid field "expected an array of strings"

def stringSet (field : String) : Json → Except ValidationError StringSet
  | .arr items => (texts field items).map fun xs => Std.ExtTreeSet.ofList xs
  | _ => invalid field "expected an array of strings"

def metricMembers : List (String × Json) → Except ValidationError (List (Metric × Float))
  | [] => .ok []
  | (name, j) :: rest =>
    match j.float? with
    | none => .error (.nonNumericMetric name)
    | some x => (metricMembers rest).map fun ms =>
      match Metric.ofName? name with
      | some k => (k, x) :: ms
      | none => ms

/-- Every member must be a number; names that are no metrics are left out. -/
def metrics : Json → Except ValidationError (List (Metric × Float))
  | .obj members => metricMembers members
  | _ => invalid "metrics" "expected an object"

def relationSets (members : List (String × Json)) :
    List Relation → Except ValidationError (List (Relation × StringSet))
  | [] => .ok []
  | k :: rest =>
    match Json.present? members k.name with
    | none => relationSets members rest
    | some j =>
      match stringSet s!"relationships.{k.name}" j with
      | .error e => .error e
      | .ok ids => (relationSets members rest).map ((k, ids) :: ·)

def relationships : Json → Except ValidationError (List (Relation × StringSet))
  | .obj members => relationSets members Relation.all
  | _ => invalid "relationships" "expected an object"

def typed (field : String) (read : Reader α) (j : Json) : Except ValidationError α :=
  match read j with
  | .ok a => .ok a
  | .error e => invalid field e.message

/-- Reads a field that is present. -/
def optional (members : List (String × Json)) (field : String) (read : Json → Except ValidationError α) :
    Except ValidationError (Option α) :=
  match Json.present? members field with
  | none => .ok none
  | some j => (read j).map some

end Payload

/-- What a payload asks of a node; absent parts leave the node as it is. -/
structure NodePatch where
  id : String
  kind : String
  name : Option String := none
  path : Option String := none
  dependencies : Option StringSet := none
  metrics : List (Metric × Float) := []
  relationships : List (Relation × StringSet) := []
  context : Option NodeContext := none
  analysis : Option Annotations := none

namespace NodePatch

def parse (data : Json) : Except ValidationError NodePatch :=
  match data with
  | .obj members => do
    let id ← Payload.requiredText members "node" "id"
    let kind ← Payload.requiredText members "node" "type"
    let name ← Payload.optionalText members "name"
    let path ← Payload.optionalText members "path"
    let dependencies ← Payload.optional members "dependencies" (Payload.stringSet "dependencies")
    let metrics ← Payload.optional members "metrics" Payload.metrics
    let relationships ← Payload.optional members "relationships" Payload.relationships
    let context ← Payload.optional members "context" (Payload.typed "context" NodeContext.read)
    let analysis ← Payload.optional members "analysis" (Payload.typed "analysis" Annotations.read)
    return { id, kind, name, path, dependencies, metrics := metrics.getD [],
             relationships := relationships.getD [], context, analysis }
  | _ => .error (.notAnObject "node")

def apply (p : NodePatch) (n : Node) : Node :=
  { n with
    kind := p.kind
    name := p.name.getD n.name
    path := p.path.getD n.path
    dependencies := p.dependencies.getD n.dependencies
    metrics := n.metrics.setAll p.metrics
    relationships := p.relationships.foldl (fun r s => r.put s.2 s.1) n.relationships
    context := p.context.getD n.context
    analysis := p.analysis.getD n.analysis }

end NodePatch

def Payload.edgeWeight (members : List (String × Json)) : Except ValidationError Float :=
  match Json.present? members "weight" with
  | none => .ok 1
  | some j =>
    match j.float? with
    | none => invalid "weight" "expected a number"
    | some w => if !w.isFinite || w < 0 then invalid "weight" "must be a non-negative number" else .ok w

/-- The edge that a payload describes in full: what it leaves out has its default. -/
def Edge.parse (data : Json) : Except ValidationError Edge :=
  match data with
  | .obj members => do
    let source ← Payload.requiredText members "edge" "from"
    let target ← Payload.requiredText members "edge" "to"
    let kind ← Payload.optionalText members "type"
    let weight ← Payload.edgeWeight members
    let details ← Payload.optional members "metadata" (Payload.typed "metadata" EdgeDetails.read)
    return { source, target, kind := kind.getD Edge.defaultKind, weight, details := details.getD {} }
  | _ => .error (.notAnObject "edge")

end CodeGraph
