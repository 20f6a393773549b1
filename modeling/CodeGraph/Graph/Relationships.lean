import CodeGraph.Wire.Record
/-! The six ways in which nodes refer to one another, each a set of ids. -/
namespace CodeGraph

inductive Relation where
  | imports
  | exports
  | inherits
  | implements
  | uses
  | usedBy
  deriving DecidableEq, Repr

namespace Relation

def all : List Relation := [imports, exports, inherits, implements, uses, usedBy]

def name : Relation → String
  | imports => "imports"
  | exports => "exports"
  | inherits => "extends"
  | implements => "implements"
  | uses => "uses"
  | usedBy => "usedBy"

def ofName? (s : String) : Option Relation := all.find? (·.name == s)

end Relation

structure Relationships where
  imports : StringSet := ∅
  exports : StringSet := ∅
  inherits : StringSet := ∅
  implements : StringSet := ∅
  uses : StringSet := ∅
  usedBy : StringSet := ∅
  deriving BEq, DecidableEq, Inhabited

namespace Relationships

def get (r : Relationships) : Relation → StringSet
  | .imports => r.imports
  | .exports => r.exports
  | .inherits => r.inherits
  | .implements => r.implements
  | .uses => r.uses
  | .usedBy => r.usedBy

def put (r : Relationships) (ids : StringSet) : Relation → Relationships
  | .imports => { r with imports := ids }
  | .exports => { r with exports := ids }
  | .inherits => { r with inherits := ids }
  | .implements => { r with implements := ids }
  | .uses => { r with uses := ids }
  | .usedBy => { r with usedBy := ids }

/-- Takes an id out of all six sets. -/
def forget (r : Relationships) (id : String) : Relationships :=
  { imports := r.imports.erase id, exports := r.exports.erase id, inherits := r.inherits.erase id
    implements := r.implements.erase id, uses := r.uses.erase id, usedBy := r.usedBy.erase id }

def mentions (r : Relationships) (id : String) : Bool :=
  Relation.all.any fun k => (r.get k).contains id

@[simp] theorem get_put_self (r : Relationships) (k : Relation) (ids : StringSet) : (r.put ids k).get k = ids := by
  cases k <;> rfl

@[simp] theorem get_forget (r : Relationships) (id : String) (k : Relation) :
    (r.forget id).get k = (r.get k).erase id := by
  cases k <;> rfl

def record : Record Relationships :=
  let ids (k : Relation) := Record.defaulted k.name Reader.set ∅
  Relationships.mk <$> ids .imports <*> ids .exports <*> ids .inherits <*> ids .implements <*> ids .uses
    <*> ids .usedBy

def read : Reader Relationships := record.read "Relationships"

def write (r : Relationships) : Json :=
  .obj [
    ("exports", .ofSet r.exports),
    ("extends", .ofSet r.inherits),
    ("implements", .ofSet r.implements),
    ("imports", .ofSet r.imports),
    ("usedBy", .ofSet r.usedBy),
    ("uses", .ofSet r.uses)]

end Relationships
end CodeGraph
