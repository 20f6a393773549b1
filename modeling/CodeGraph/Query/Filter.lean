import CodeGraph.Graph.Store
import CodeGraph.Text.Lower
/-! Finding nodes: by a term in their texts, and by conditions on their kind, metrics and findings. -/
namespace CodeGraph

structure NumericRange where
  min : Option Float := none
  max : Option Float := none
  deriving BEq, Inhabited

namespace NumericRange

def contains (r : NumericRange) (x : Float) : Bool := r.min.all (x ≥ ·) && r.max.all (x ≤ ·)

def record : Record NumericRange :=
  let bound (name : String) := Record.defaulted name (Reader.nullable Reader.float) none
  NumericRange.mk <$> bound "min" <*> bound "max"

def read : Reader NumericRange := record.read "NumericRange"

def write (r : NumericRange) : Json :=
  .obj [("max", .ofOption .float r.max), ("min", .ofOption .float r.min)]

end NumericRange

/-- Conditions all of which must hold; an empty list is no condition, and of a list one member is enough. -/
structure NodeFilter where
  types : List String := []
  complexity : Option NumericRange := none
  coverage : Option NumericRange := none
  maintainability : Option NumericRange := none
  patterns : List String := []
  smells : List String := []
  vulnerabilities : List String := []
  deriving BEq, Inhabited

namespace NodeFilter

def anyIn (wanted : List String) (present : StringSet) : Bool :=
  wanted.isEmpty || wanted.any present.contains

def admits (range : Option NumericRange) (x : Float) : Bool := range.all (·.contains x)

def accepts (f : NodeFilter) (n : Node) : Bool :=
  (f.types.isEmpty || f.types.contains n.kind)
    && admits f.complexity n.metrics.complexity && admits f.coverage n.metrics.coverage
    && admits f.maintainability n.metrics.maintainability
    && anyIn f.patterns n.analysis.patterns && anyIn f.smells n.analysis.smells
    && anyIn f.vulnerabilities n.analysis.vulnerabilities

def record : Record NodeFilter :=
  let names (name : String) := Record.defaulted name (Reader.list Reader.string) []
  let range (name : String) := Record.defaulted name (Reader.nullable NumericRange.read) none
  NodeFilter.mk <$> names "types" <*> range "complexity" <*> range "coverage" <*> range "maintainability"
    <*> names "patterns" <*> names "smells" <*> names "vulnerabilities"

def read : Reader NodeFilter := record.read "NodeFilter"

def write (f : NodeFilter) : Json :=
  .obj [
    ("complexity", .ofOption NumericRange.write f.complexity),
    ("coverage", .ofOption NumericRange.write f.coverage),
    ("maintainability", .ofOption NumericRange.write f.maintainability),
    ("patterns", .ofList .str f.patterns),
    ("smells", .ofList .str f.smells),
    ("types", .ofList .str f.types),
    ("vulnerabilities", .ofList .str f.vulnerabilities)]

end NodeFilter

/-- Whether a term, trimmed and without regard to case, stands in the name, the path, the documentation or a pattern
of a node. A blank term stands nowhere. -/
def Node.matchesTerm (n : Node) (term : String) : Bool :=
  let needle := Text.lower (Text.trim term)
  let hit (text : String) := Text.contains (Text.lower text) needle
  !needle.isEmpty
    && (hit n.name || hit n.path || n.analysis.documentation.any hit || n.analysis.patterns.toList.any hit)

/-- The ids of the nodes in which a term stands. -/
def searchNodes (nodes : List Node) (term : String) : StringSet :=
  addAll ∅ ((nodes.filter (·.matchesTerm term)).map (·.id))

/-- The accepted nodes in increasing order of their ids. -/
def NodeFilter.select (f : NodeFilter) (nodes : List Node) : List Node :=
  (nodes.filter f.accepts).mergeSort fun a b => compare a.id b.id != .gt

namespace Store

def search (s : Store) (term : String) : StringSet := searchNodes s.nodeList term

def filterNodes (s : Store) (f : NodeFilter) : List Node := f.select s.nodeList

end Store
end CodeGraph
