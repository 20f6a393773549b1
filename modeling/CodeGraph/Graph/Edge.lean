import CodeGraph.Wire.Record
/-! The edges of the graph. There is at most one edge from one node to another. -/
namespace CodeGraph

structure EdgeDetails where
  lineNumber : Option Nat := none
  context : Option String := none
  strength : Option Float := none
  bidirectional : Bool := false
  deriving BEq, Inhabited

namespace EdgeDetails

def record : Record EdgeDetails :=
  EdgeDetails.mk <$> Record.defaulted "lineNumber" (Reader.nullable (Reader.natural 32 "u32")) none
    <*> Record.defaulted "context" (Reader.nullable Reader.string) none
    <*> Record.defaulted "strength" (Reader.nullable Reader.float) none
    <*> Record.defaulted "bidirectional" Reader.boolean false

def read : Reader EdgeDetails := record.read "EdgeMetadata"

def write (d : EdgeDetails) : Json :=
  .obj [
    ("bidirectional", .bool d.bidirectional),
    ("context", .ofOption .str d.context),
    ("lineNumber", .ofOption .nat d.lineNumber),
    ("strength", .ofOption .float d.strength)]

end EdgeDetails

structure Edge where
  source : String
  target : String
  kind : String
  weight : Float
  details : EdgeDetails := {}
  deriving BEq, Inhabited

/-- The ends of an edge; in order of the source, then of the target. -/
abbrev EdgeKey := String × String

instance : Ord EdgeKey := lexOrd

namespace Edge

/-- The kind of edges that follow from import statements. -/
def importKind : String := "imports"

/-- The kind of an edge that names none. -/
def defaultKind : String := "uses"

def ofEnds (source target kind : String) : Edge := { source, target, kind, weight := 1 }

def key (e : Edge) : EdgeKey := (e.source, e.target)

def touches (e : Edge) (id : String) : Bool := e.source == id || e.target == id

def record : Record Edge :=
  Edge.mk <$> Record.required "from" Reader.string <*> Record.required "to" Reader.string
    <*> Record.required "type" Reader.string <*> Record.required "weight" Reader.float
    <*> Record.defaulted "metadata" EdgeDetails.read {}

def read : Reader Edge := record.read "CodeEdge"

def write (e : Edge) : Json :=
  .obj [
    ("from", .str e.source),
    ("metadata", e.details.write),
    ("to", .str e.target),
    ("type", .str e.kind),
    ("weight", .float e.weight)]

end Edge
end CodeGraph
