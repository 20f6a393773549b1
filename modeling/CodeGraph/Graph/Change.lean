import CodeGraph.Wire.Record
/-! The history of changes. -/
namespace CodeGraph

inductive ChangeKind where
  | file
  | dependency
  | analysis
  deriving DecidableEq, Repr

namespace ChangeKind

def name : ChangeKind → String
  | file => "file"
  | dependency => "dependency"
  | analysis => "analysis"

def all : List ChangeKind := [file, dependency, analysis]

def read : Reader ChangeKind := Reader.choice (all.map fun k => (k.name, k))

end ChangeKind

/-- One change of the stored graph: what path it concerns and what was asked for. -/
structure Change where
  kind : ChangeKind
  path : String
  payload : Json
  time : Time

namespace Change

def record : Record Change :=
  Change.mk <$> Record.required "type" ChangeKind.read <*> Record.required "path" Reader.string
    <*> Record.required "payload" Reader.value <*> Record.required "timestamp" Reader.time

def read : Reader Change := record.read "ChangeHistoryEntry"

def write (c : Change) : Json :=
  .obj [
    ("path", .str c.path),
    ("payload", c.payload),
    ("timestamp", .ofTime c.time),
    ("type", .str c.kind.name)]

end Change
end CodeGraph
