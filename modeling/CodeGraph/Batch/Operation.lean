import CodeGraph.Graph.Store
/-! One item of a batch: adding, modifying or removing a node or an edge. -/
namespace CodeGraph

inductive BatchTarget where
  | node
  | edge
  deriving DecidableEq, Repr

inductive BatchAction where
  | add
  | modify
  | remove
  deriving DecidableEq, Repr

structure BatchOperation where
  target : BatchTarget
  action : BatchAction
  data : Json

namespace BatchTarget

def name : BatchTarget → String
  | node => "node"
  | edge => "edge"

def read : Reader BatchTarget := Reader.choice ([node, edge].map fun t => (t.name, t))

end BatchTarget

namespace BatchAction

def name : BatchAction → String
  | add => "add"
  | modify => "modify"
  | remove => "remove"

def read : Reader BatchAction := Reader.choice ([add, modify, remove].map fun a => (a.name, a))

end BatchAction

namespace BatchOperation

def record : Record BatchOperation :=
  BatchOperation.mk <$> Record.required "type" BatchTarget.read <*> Record.required "operation" BatchAction.read
    <*> Record.defaulted "data" Reader.value .null

def parse (item : Json) : Except ValidationError BatchOperation :=
  match record.read "BatchOperation" item with
  | .ok op => .ok op
  | .error e => .error (.unsupportedOperation e.message)

/-- A text in the item's data, trimmed and not blank. -/
def field (data : Json) (name : String) : Except ValidationError String :=
  match (data.get? name).bind Json.str? |>.bind Text.trimmed? with
  | some s => .ok s
  | none => .error (.missingField "batch item" name)

/-- Only what is there can be modified. -/
def apply (now : Time) (op : BatchOperation) (s : Store) : Except ValidationError Store := do
  match op.target, op.action with
  | .node, .add => return (← s.upsertNode now op.data).2
  | .node, .modify =>
    let id ← field op.data "id"
    if s.contains id then return (← s.upsertNode now op.data).2 else throw (.unknownNode id)
  | .node, .remove =>
    let id ← field op.data "id"
    return (← s.removeNode now id).2
  | .edge, .add => return (← s.upsertEdge now op.data).2
  | .edge, .modify =>
    let source ← field op.data "from"
    let target ← field op.data "to"
    match s.edge? source target with
    | some _ => return (← s.upsertEdge now op.data).2
    | none => throw (.unknownEdge source target)
  | .edge, .remove =>
    let source ← field op.data "from"
    let target ← field op.data "to"
    return (← s.removeEdge now source target).2

/-- The node that the item is to remove. -/
def removedNode? (op : BatchOperation) : Option String :=
  match op.target, op.action with
  | .node, .remove => (field op.data "id").toOption
  | _, _ => none

end BatchOperation
end CodeGraph
