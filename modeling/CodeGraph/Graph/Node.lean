import CodeGraph.Graph.Metrics
import CodeGraph.Graph.Relationships
import CodeGraph.Graph.Annotations
/-! The nodes of the graph: files and whatever else has an id. -/
namespace CodeGraph

/-- Where a node stands in the program's own structure. -/
structure NodeContext where
  spaceName : Option String := none
  moduleName : Option String := none
  scope : Option String := none
  visibility : Option String := none
  deriving DecidableEq, Inhabited

namespace NodeContext

def record : Record NodeContext :=
  let text (name : String) := Record.defaulted name (Reader.nullable Reader.string) none
  NodeContext.mk <$> text "namespace" <*> text "module" <*> text "scope" <*> text "visibility"

def read : Reader NodeContext := record.read "NodeContext"

def write (c : NodeContext) : Json :=
  .obj [
    ("module", .ofOption .str c.moduleName),
    ("namespace", .ofOption .str c.spaceName),
    ("scope", .ofOption .str c.scope),
    ("visibility", .ofOption .str c.visibility)]

end NodeContext

structure Node where
  id : String
  kind : String
  name : String := ""
  path : String := ""
  dependencies : StringSet := ∅
  metrics : Metrics := {}
  relationships : Relationships := {}
  context : NodeContext := {}
  analysis : Annotations := {}
  deriving BEq, Inhabited

/-- The parts of a path between its slashes of either kind. -/
def pathSegments (cs : List Char) : List (List Char) :=
  cs.splitOnP fun c => c == '/' || c == '\\'

/-- The last part of a path that is not empty. -/
def displayName (path : String) : String :=
  match (pathSegments path.toList).reverse.find? (!·.isEmpty) with
  | some segment => String.ofList segment
  | none => path

/-- The sum of some sizes. -/
def total (sizes : List Nat) : Nat := sizes.foldr (· + ·) 0

namespace Node

/-- The kind of nodes that are files. -/
def fileKind : String := "file"

/-- A node of which only the id is known; it doubles as the path. -/
def ofId (id kind : String) : Node := { id, kind, name := displayName id, path := id }

def forPath (path : String) : Node := ofId path fileKind

/-- Forgets that another node exists. -/
def forget (n : Node) (id : String) : Node :=
  { n with relationships := n.relationships.forget id, dependencies := n.dependencies.erase id }

def mentions (n : Node) (id : String) : Bool :=
  n.relationships.mentions id || n.dependencies.contains id

def setSize (s : StringSet) : Nat := total (s.toList.map fun x => x.utf8ByteSize + 24)

/-- Bytes of text the node holds, with an allowance for each set member and commit. -/
def textBytes (n : Node) : Nat :=
  let sets := [n.dependencies, n.relationships.imports, n.relationships.exports, n.relationships.inherits,
    n.relationships.implements, n.relationships.uses, n.relationships.usedBy, n.analysis.patterns,
    n.analysis.smells, n.analysis.vulnerabilities, n.analysis.suggestions]
  n.id.utf8ByteSize + n.kind.utf8ByteSize + n.name.utf8ByteSize + n.path.utf8ByteSize + total (sets.map setSize)
    + (n.analysis.documentation.map String.utf8ByteSize).getD 0 + n.analysis.commits.length * 96

def record : Record Node :=
  Node.mk <$> Record.required "id" Reader.string <*> Record.required "type" Reader.string
    <*> Record.defaulted "name" Reader.string "" <*> Record.defaulted "path" Reader.string ""
    <*> Record.defaulted "dependencies" Reader.set ∅ <*> Record.defaulted "metrics" Metrics.read {}
    <*> Record.defaulted "relationships" Relationships.read {}
    <*> Record.defaulted "context" NodeContext.read {} <*> Record.defaulted "analysis" Annotations.read {}

def read : Reader Node := record.read "CodeNode"

def write (n : Node) : Json :=
  .obj [
    ("analysis", n.analysis.write),
    ("context", n.context.write),
    ("dependencies", .ofSet n.dependencies),
    ("id", .str n.id),
    ("metrics", n.metrics.write),
    ("name", .str n.name),
    ("path", .str n.path),
    ("relationships", n.relationships.write),
    ("type", .str n.kind)]

end Node
end CodeGraph
