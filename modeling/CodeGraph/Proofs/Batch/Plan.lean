import CodeGraph.Proofs.Graph.Changes
import CodeGraph.Proofs.Wire.Reading
/-!
What an item of a batch comes to: one action on the graph, or a refusal. Which of the two depends on
the nodes and edges alone, and neither on the clock nor on what happened before.
-/
namespace CodeGraph

namespace BatchOperation

def planNode (data : Json) : Except ValidationError StoreAction := do
  let p ← NodePatch.parse data
  return .edit p.id p.kind .file data (.patch p)

def planEdge (data : Json) : Except ValidationError StoreAction := do
  let e ← Edge.parse data
  return .link e data

/-- The action that an operation stands for, unless it is refused. -/
def plan (op : BatchOperation) (s : Store) : Except ValidationError StoreAction := do
  match op.target, op.action with
  | .node, .add => planNode op.data
  | .node, .modify =>
    let id ← field op.data "id"
    if s.contains id then planNode op.data else throw (.unknownNode id)
  | .node, .remove =>
    let id ← field op.data "id"
    if s.contains id then return .remove id else throw (.unknownNode id)
  | .edge, .add => planEdge op.data
  | .edge, .modify =>
    let source ← field op.data "from"
    let target ← field op.data "to"
    match s.edge? source target with
    | some _ => planEdge op.data
    | none => throw (.unknownEdge source target)
  | .edge, .remove =>
    let source ← field op.data "from"
    let target ← field op.data "to"
    match s.edge? source target with
    | some _ => return .unlink source target
    | none => throw (.unknownEdge source target)

section Equation
variable (s : Store) (now : Time) (data : Json)

theorem planNode_eq : (s.upsertNode now data).map (·.2) = (planNode data).map fun a => a.apply now s := by
  rw [Store.upsertNode_eq, planNode]
  cases NodePatch.parse data <;> rfl

theorem planEdge_eq : (s.upsertEdge now data).map (·.2) = (planEdge data).map fun a => a.apply now s := by
  rw [Store.upsertEdge_eq, planEdge]
  cases Edge.parse data <;> rfl

/-- An operation does what is planned, and it is refused for the same reason. -/
theorem apply_eq (op : BatchOperation) : op.apply now s = (op.plan s).map fun a => a.apply now s := by
  obtain ⟨target, action, data⟩ := op
  cases target with
  | node =>
    cases action with
    | add => exact planNode_eq s now data
    | modify =>
      simp only [apply, plan]
      cases field data "id" with
      | error fault => rfl
      | ok id =>
        simp only [bind, Except.bind]
        split
        · exact planNode_eq s now data
        · rfl
    | remove =>
      simp only [apply, plan]
      cases field data "id" with
      | error fault => rfl
      | ok id =>
        simp only [bind, Except.bind, Store.contains_eq]
        rcases s.removeNode_cases now id with ⟨hid, hr⟩ | ⟨n, s', hid, hr, -⟩
        · rw [hr, hid]
          rfl
        · rw [hr, hid]
          simp only [Option.isSome_some, if_true, pure, Except.pure, Except.map, Store.remove_apply hr]
  | edge =>
    cases action with
    | add => exact planEdge_eq s now data
    | modify =>
      simp only [apply, plan]
      cases field data "from" with
      | error fault => rfl
      | ok source =>
        cases field data "to" with
        | error fault => rfl
        | ok target =>
          simp only [bind, Except.bind]
          cases s.edge? source target with
          | none => rfl
          | some e => exact planEdge_eq s now data
    | remove =>
      simp only [apply, plan]
      cases field data "from" with
      | error fault => rfl
      | ok source =>
        cases field data "to" with
        | error fault => rfl
        | ok target =>
          simp only [bind, Except.bind]
          rcases s.removeEdge_cases now source target with ⟨he, hr⟩ | ⟨e, s', he, hr, -⟩
          · rw [hr, he]
            rfl
          · rw [hr, he]
            simp only [pure, Except.pure, Except.map, Store.unlink_apply hr]

end Equation

theorem planNode_removed {data : Json} {a : StoreAction} (h : planNode data = .ok a) : a.removed? = none := by
  obtain ⟨p, -, hp⟩ := bind_ok_inv h
  cases hp
  rfl

theorem planEdge_removed {data : Json} {a : StoreAction} (h : planEdge data = .ok a) : a.removed? = none := by
  obtain ⟨e, -, he⟩ := bind_ok_inv h
  cases he
  rfl

/-- What an operation is to remove is what its action removes, and it is there. -/
theorem plan_removed {op : BatchOperation} {s : Store} {a : StoreAction} (h : op.plan s = .ok a) :
    a.removed? = op.removedNode? ∧ ∀ id, a.removed? = some id → s.contains id = true := by
  have hnone : a.removed? = none → op.removedNode? = none →
      a.removed? = op.removedNode? ∧ ∀ id, a.removed? = some id → s.contains id = true := by
    intro ha hop
    simp [ha, hop]
  obtain ⟨target, action, data⟩ := op
  cases target with
  | node =>
    cases action with
    | add => exact hnone (planNode_removed h) rfl
    | modify =>
      obtain ⟨id, -, h⟩ := bind_ok_inv h
      split at h
      · exact hnone (planNode_removed h) rfl
      · cases h
    | remove =>
      obtain ⟨id, hid, h⟩ := bind_ok_inv h
      split at h
      · next hc =>
        cases h
        refine ⟨by simp [StoreAction.removed?, removedNode?, hid, Except.toOption], ?_⟩
        intro i hi
        rw [← Option.some.inj hi]
        exact hc
      · cases h
  | edge =>
    cases action with
    | add => exact hnone (planEdge_removed h) rfl
    | modify =>
      obtain ⟨source, -, h⟩ := bind_ok_inv h
      obtain ⟨target, -, h⟩ := bind_ok_inv h
      split at h
      · exact hnone (planEdge_removed h) rfl
      · cases h
    | remove =>
      obtain ⟨source, -, h⟩ := bind_ok_inv h
      obtain ⟨target, -, h⟩ := bind_ok_inv h
      split at h
      · cases h
        exact hnone rfl rfl
      · cases h

/-- The plan reads nothing but nodes and edges. -/
theorem plan_congr {s s' : Store} (hn : s'.nodes = s.nodes) (he : s'.edges = s.edges) (op : BatchOperation) :
    op.plan s' = op.plan s := by
  simp only [plan, Store.contains, Store.edge?, hn, he]
  rfl

end BatchOperation
end CodeGraph
