import CodeGraph.Update.Content
import CodeGraph.Graph.Store
/-!
What a file imports. An update replaces all of its imports at once: the sets on both ends and the edges between them
are kept in step.
-/
namespace CodeGraph

structure DependencyChange where
  path : String
  dependencies : List String
  deriving DecidableEq

namespace DependencyChange

def record : Record DependencyChange :=
  DependencyChange.mk <$> Record.required "path" Reader.string
    <*> Record.defaulted "dependencies" (Reader.list Reader.string) []

/-- Blank dependencies are dropped. -/
def parse (data : Json) : Except ValidationError DependencyChange := do
  let path ← eventPath data
  match record.read "DependencyChange" data with
  | .error e => throw (.invalidField "dependencies" e.message)
  | .ok change =>
    return { path, dependencies := change.dependencies.filter fun d => (Text.trimmed? d).isSome }

/-- What the file is to import: all that is listed but itself. -/
def wanted (c : DependencyChange) : StringSet :=
  Std.ExtTreeSet.ofList (c.dependencies.filter (· != c.path))

def setImports (ids : StringSet) (n : Node) : Node :=
  { n with dependencies := ids, relationships := { n.relationships with imports := ids, uses := ids } }

def addUser (id : String) (n : Node) : Node :=
  { n with relationships := { n.relationships with usedBy := n.relationships.usedBy.insert id } }

def dropUser (id : String) (n : Node) : Node :=
  { n with relationships := { n.relationships with usedBy := n.relationships.usedBy.erase id } }

/-- A store and the ids that changed so far. -/
structure Progress where
  store : Store
  changed : StringSet

def Progress.modify (p : Progress) (now : Time) (id : String) (payload : Json) (f : Node → Node) : Progress :=
  let (store, changed) := p.store.modify now id Node.fileKind .dependency payload f
  { store, changed := if changed then p.changed.insert id else p.changed }

/-- Links the file to one of its imports. An edge that is there already keeps what was recorded on it. -/
def link (now : Time) (path : String) (payload : Json) (p : Progress) (target : String) : Progress :=
  let p := p.modify now target payload (addUser path)
  match p.store.edge? path target with
  | some _ => p
  | none => { p with store := (p.store.putEdge now (Edge.ofEnds path target Edge.importKind) payload).1 }

/-- Unlinks the file from a former import; only an edge that stands for an import goes. -/
def unlink (now : Time) (path : String) (payload : Json) (p : Progress) (target : String) : Progress :=
  let p := if p.store.contains target then p.modify now target payload (dropUser path) else p
  match p.store.edge? path target with
  | some e =>
    if e.kind == Edge.importKind then
      match p.store.removeEdge now path target with
      | .ok (_, store) => { p with store }
      | .error _ => p
    else p
  | none => p

/-- Applies the change and tells which nodes differ afterwards. -/
def apply (now : Time) (c : DependencyChange) (payload : Json) (s : Store) : Store × StringSet :=
  let wanted := c.wanted
  let previous := match s.node? c.path with
    | some n => n.relationships.imports
    | none => ∅
  let p : Progress := ⟨s, ∅⟩
  let p := p.modify now c.path payload (setImports wanted)
  let p := wanted.toList.foldl (link now c.path payload) p
  let dropped := previous.toList.filter fun id => !wanted.contains id
  let p := dropped.foldl (unlink now c.path payload) p
  (p.store, p.changed)

end DependencyChange
end CodeGraph
