import CodeGraph.Proofs.Graph.Lookup
import CodeGraph.Proofs.Graph.Update
import CodeGraph.Proofs.Text.Trimmed
/-!
Batch items that remove a node or an edge. The names in an item are trimmed before anything is looked up, so what
stands under a name that is not trimmed stays.
-/
namespace CodeGraph

namespace Store
variable (s : Store) (now : Time)

theorem contains_remove (id x : String) :
    ((StoreAction.remove id).apply now s).contains x = true ↔ s.contains x = true ∧ id ≠ x := by
  rcases s.remove_cases now id with ⟨hid, hsame⟩ | ⟨n, s', -, hr, hleft⟩
  · rw [hsame, iff_self_and]
    rintro hx rfl
    rw [hid] at hx
    cases hx
  · rw [hleft, contains_eq, (lookup_removeNode hr).1, contains_eq]
    split
    · next hx => simp [hx]
    · next hx => simp [hx]

theorem edge?_unlink (source target a b : String) : ((StoreAction.unlink source target).apply now s).edge? a b =
    if (source, target) = (a, b) then none else s.edge? a b := by
  rcases s.removeEdge_cases now source target with ⟨hnone, hr⟩ | ⟨e, s', -, hr, -⟩
  · simp only [StoreAction.apply, hr]
    split
    · next hkey =>
      obtain ⟨rfl, rfl⟩ := Prod.mk.inj hkey
      exact hnone
    · rfl
  · rw [unlink_apply hr, (lookup_removeEdge hr).2]

end Store

namespace BatchOperation

/-- The batch item that asks for an operation. -/
def item (op : BatchOperation) : Json :=
  .obj [("data", op.data), ("operation", .str op.action.name), ("type", .str op.target.name)]

theorem parse_item (op : BatchOperation) : parse op.item = .ok op := by
  obtain ⟨target, action, data⟩ := op
  cases target <;> cases action <;> rfl

theorem field_of_text {data : Json} {name text : String} (h : data.get? name = some (.str text)) :
    field data name = match Text.trimmed? text with
      | some trimmed => .ok trimmed
      | none => .error (.missingField "batch item" name) := by
  rw [field, h]
  rfl

end BatchOperation

/-- The batch item that asks for the removal of a node. -/
def nodeRemoval (id : String) : Json := BatchOperation.item ⟨.node, .remove, .obj [("id", .str id)]⟩

/-- The batch item that asks for the removal of an edge. -/
def edgeRemoval (source target : String) : Json :=
  BatchOperation.item ⟨.edge, .remove, .obj [("from", .str source), ("to", .str target)]⟩

namespace GraphUpdate
variable (now : Time) (s : Store)

theorem apply_nodeRemoval (id : String) : (batchItem (nodeRemoval id)).apply now s =
    match Text.trimmed? id with
    | some name => (StoreAction.remove name).apply now s
    | none => s := by
  have hid : (Json.obj [("id", .str id)]).get? "id" = some (.str id) := rfl
  simp only [apply_batchItem, nodeRemoval, BatchOperation.parse_item, BatchOperation.plan,
    BatchOperation.field_of_text hid, bind, Except.bind]
  cases Text.trimmed? id with
  | none => rfl
  | some name =>
    dsimp only
    split
    · rfl
    · next hmissing =>
      rcases s.remove_cases now name with ⟨-, hsame⟩ | ⟨n, s', hstored, -⟩
      · exact hsame.symm
      · exact absurd hstored hmissing

theorem apply_edgeRemoval (source target : String) : (batchItem (edgeRemoval source target)).apply now s =
    match Text.trimmed? source, Text.trimmed? target with
    | some a, some b => (StoreAction.unlink a b).apply now s
    | _, _ => s := by
  have hfrom : (Json.obj [("from", .str source), ("to", .str target)]).get? "from" = some (.str source) := rfl
  have hto : (Json.obj [("from", .str source), ("to", .str target)]).get? "to" = some (.str target) := rfl
  simp only [apply_batchItem, edgeRemoval, BatchOperation.parse_item, BatchOperation.plan,
    BatchOperation.field_of_text hfrom, BatchOperation.field_of_text hto, bind, Except.bind]
  cases Text.trimmed? source with
  | none => rfl
  | some a =>
    cases Text.trimmed? target with
    | none => rfl
    | some b =>
      dsimp only
      cases he : s.edge? a b with
      | some e => rfl
      | none =>
        rcases s.removeEdge_cases now a b with ⟨-, hr⟩ | ⟨e, s', he', -⟩
        · simp only [StoreAction.apply, hr]
          rfl
        · rw [he] at he'
          cases he'

/-- A stored node is removed by its item exactly if its id is trimmed. -/
theorem nodeRemoval_removes_iff {id : String} (h : s.contains id = true) :
    ((batchItem (nodeRemoval id)).apply now s).contains id = false ↔ Text.IsTrimmed id := by
  rw [apply_nodeRemoval, ← Text.trimmed?_eq_self_iff, ← Bool.not_eq_true]
  cases Text.trimmed? id with
  | none => simp [h]
  | some name => simp [Store.contains_remove, h]

/-- A stored edge is removed by its item exactly if both of its ends are trimmed. -/
theorem edgeRemoval_removes_iff {source target : String} {e : Edge} (h : s.edge? source target = some e) :
    ((batchItem (edgeRemoval source target)).apply now s).edge? source target = none ↔
      Text.IsTrimmed source ∧ Text.IsTrimmed target := by
  rw [apply_edgeRemoval, ← Text.trimmed?_eq_self_iff, ← Text.trimmed?_eq_self_iff]
  cases Text.trimmed? source with
  | none => simp [h]
  | some a =>
    cases Text.trimmed? target with
    | none => simp [h]
    | some b => simp [Store.edge?_unlink, h]

end GraphUpdate
end CodeGraph
