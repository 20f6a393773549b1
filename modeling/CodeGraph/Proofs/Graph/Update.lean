import CodeGraph.Proofs.Batch.Plan
import CodeGraph.Proofs.Graph.WellFormed
/-!
The updates of a stored graph, one after the other: what is asked for directly, in a batch or by an
event. An update that is refused leaves the graph as it is.
-/
namespace CodeGraph

/-- What is left of a store that something may be refused by. -/
def Store.unlessRefused {ε : Type} (s : Store) : Except ε Store → Store
  | .ok s' => s'
  | .error _ => s

inductive GraphUpdate where
  | upsertNode (data : Json)
  | upsertEdge (data : Json)
  | removeNode (id : String)
  | removeEdge (source target : String)
  | batchItem (item : Json)
  | dependencies (c : DependencyChange) (payload : Json)
  | analysis (u : AnalysisUpdate) (payload : Json)
  | project (u : ProjectUpdate)
  | result (path : String) (r : AnalyzerResult) (payload : Json)

def GraphUpdate.apply (now : Time) (u : GraphUpdate) (s : Store) : Store :=
  match u with
  | upsertNode data => s.unlessRefused ((s.upsertNode now data).map (·.2))
  | upsertEdge data => s.unlessRefused ((s.upsertEdge now data).map (·.2))
  | removeNode id => s.unlessRefused ((s.removeNode now id).map (·.2))
  | removeEdge source target => s.unlessRefused ((s.removeEdge now source target).map (·.2))
  | batchItem item => s.unlessRefused do
    let op ← BatchOperation.parse item
    op.apply now s
  | dependencies c payload => (c.apply now payload s).1
  | analysis u payload => (u.apply now payload s).1
  | project u => (u.apply now s).1
  | result path r payload => (r.apply now path payload s).1

/-- Updates at the times at which they are made. -/
def Store.updated (s : Store) (updates : List (Time × GraphUpdate)) : Store :=
  updates.foldl (fun s u => u.2.apply u.1 s) s

/-- An action that is asked for as such, with the payload that asks for it. -/
inductive StoreAction.Direct : StoreAction → Prop where
  | upsertNode {data : Json} {p : NodePatch} :
    NodePatch.parse data = .ok p → Direct (.edit p.id p.kind .file data (.patch p))
  | upsertEdge {data : Json} {e : Edge} : Edge.parse data = .ok e → Direct (.link e data)
  | removeNode (id : String) : Direct (.remove id)
  | removeEdge (source target : String) : Direct (.unlink source target)

/-- The payload that an action takes over. -/
def StoreAction.payload? : StoreAction → Option Json
  | edit _ _ _ payload _ | link _ payload => some payload
  | unlink _ _ | remove _ => none

namespace BatchOperation

/-- An action that is planned is one that is asked for as such, with the payload given for it. -/
def Plans (data : Json) (a : StoreAction) : Prop := a.Direct ∧ ∀ payload ∈ a.payload?, payload = data

theorem planNode_plans {data : Json} {a : StoreAction} (h : planNode data = .ok a) : Plans data a := by
  obtain ⟨p, hp, ha⟩ := bind_ok_inv h
  cases ha
  exact ⟨.upsertNode hp, fun payload hpayload => (Option.some.inj hpayload).symm⟩

theorem planEdge_plans {data : Json} {a : StoreAction} (h : planEdge data = .ok a) : Plans data a := by
  obtain ⟨e, he, ha⟩ := bind_ok_inv h
  cases ha
  exact ⟨.upsertEdge he, fun payload hpayload => (Option.some.inj hpayload).symm⟩

theorem plan_plans {op : BatchOperation} {s : Store} {a : StoreAction} (h : op.plan s = .ok a) : Plans op.data a := by
  obtain ⟨target, action, data⟩ := op
  cases target with
  | node =>
    cases action with
    | add => exact planNode_plans h
    | modify =>
      obtain ⟨id, -, h⟩ := bind_ok_inv h
      split at h
      · exact planNode_plans h
      · cases h
    | remove =>
      obtain ⟨id, -, h⟩ := bind_ok_inv h
      split at h
      · cases h
        exact ⟨.removeNode id, nofun⟩
      · cases h
  | edge =>
    cases action with
    | add => exact planEdge_plans h
    | modify =>
      obtain ⟨source, -, h⟩ := bind_ok_inv h
      obtain ⟨target, -, h⟩ := bind_ok_inv h
      split at h
      · exact planEdge_plans h
      · cases h
    | remove =>
      obtain ⟨source, -, h⟩ := bind_ok_inv h
      obtain ⟨target, -, h⟩ := bind_ok_inv h
      split at h
      · cases h
        exact ⟨.removeEdge source target, nofun⟩
      · cases h

theorem plan_direct {op : BatchOperation} {s : Store} {a : StoreAction} (h : op.plan s = .ok a) : a.Direct :=
  (plan_plans h).1

end BatchOperation

namespace Store
variable {s s' : Store} {now : Time}

theorem WellFormed.revised (h : s.WellFormed) (hs : Revised now s s') : s'.WellFormed := by
  obtain ⟨as, rfl, -⟩ := hs
  exact h.perform now as

end Store

namespace GraphUpdate
variable {s : Store} {now : Time}

/-- Updates that ask for an action as such. -/
def isDirect : GraphUpdate → Bool
  | upsertNode _ | upsertEdge _ | removeNode _ | removeEdge _ _ | batchItem _ => true
  | _ => false

/-- What is given with a direct update for the action that it asks for; nothing for a removal. -/
def Hands (data : Json) : GraphUpdate → Prop
  | upsertNode payload | upsertEdge payload => data = payload
  | batchItem item => ∃ op, BatchOperation.parse item = .ok op ∧ data = op.data
  | _ => data = .null

theorem unlessRefused_plan {P : Store → Prop} (h : P s) {x : Except ValidationError StoreAction}
    (hx : ∀ a, x = .ok a → P (a.apply now s)) : P (s.unlessRefused (x.map fun a => a.apply now s)) := by
  cases x with
  | error fault => exact h
  | ok a => exact hx a rfl

theorem apply_upsertNode (data : Json) : (upsertNode data).apply now s =
    s.unlessRefused ((BatchOperation.planNode data).map fun a => a.apply now s) := by
  rw [apply, BatchOperation.planNode_eq]

theorem apply_upsertEdge (data : Json) : (upsertEdge data).apply now s =
    s.unlessRefused ((BatchOperation.planEdge data).map fun a => a.apply now s) := by
  rw [apply, BatchOperation.planEdge_eq]

theorem apply_removeNode (id : String) : (removeNode id).apply now s = (StoreAction.remove id).apply now s := by
  simp only [apply, StoreAction.apply]
  cases s.removeNode now id <;> rfl

theorem apply_removeEdge (source target : String) :
    (removeEdge source target).apply now s = (StoreAction.unlink source target).apply now s := by
  simp only [apply, StoreAction.apply]
  cases s.removeEdge now source target <;> rfl

theorem apply_batchItem (item : Json) : (batchItem item).apply now s =
    s.unlessRefused ((BatchOperation.parse item >>= fun op => op.plan s).map fun a => a.apply now s) := by
  simp only [apply, BatchOperation.apply_eq, bind, Except.bind]
  cases BatchOperation.parse item <;> rfl

/-- What holds before a direct update and after every action that it may ask for, with the payload that is given for
it, holds after the update. -/
theorem planned_apply {P : Store → Prop} (h : P s) {u : GraphUpdate} (hu : u.isDirect = true)
    (hplan : ∀ data a, u.Hands data → BatchOperation.Plans data a → P (a.apply now s)) : P (u.apply now s) := by
  cases u with
  | upsertNode data =>
    rw [apply_upsertNode]
    exact unlessRefused_plan h fun a ha => hplan data a rfl (BatchOperation.planNode_plans ha)
  | upsertEdge data =>
    rw [apply_upsertEdge]
    exact unlessRefused_plan h fun a ha => hplan data a rfl (BatchOperation.planEdge_plans ha)
  | removeNode id =>
    rw [apply_removeNode]
    exact hplan .null _ rfl ⟨.removeNode id, nofun⟩
  | removeEdge source target =>
    rw [apply_removeEdge]
    exact hplan .null _ rfl ⟨.removeEdge source target, nofun⟩
  | batchItem item =>
    rw [apply_batchItem]
    refine unlessRefused_plan h fun a ha => ?_
    obtain ⟨op, hop, hplans⟩ := bind_ok_inv ha
    exact hplan op.data a ⟨op, hop, rfl⟩ (BatchOperation.plan_plans hplans)
  | _ => cases hu

/-- What holds before a direct update and after every action that may be asked for holds after the
update. -/
theorem direct_apply {P : Store → Prop} (h : P s) (hdirect : ∀ a : StoreAction, a.Direct → P (a.apply now s))
    {u : GraphUpdate} (hu : u.isDirect = true) : P (u.apply now s) :=
  planned_apply h hu fun _ a _ ha => hdirect a ha.1

theorem apply_wellFormed (u : GraphUpdate) (h : s.WellFormed) : (u.apply now s).WellFormed := by
  cases u with
  | dependencies c payload => exact h.revised (c.apply_revised now payload s)
  | analysis u payload => exact h.revised (u.apply_revised now payload s)
  | project u => exact h.revised (u.apply_revised now s)
  | result path r payload => exact h.revised (r.apply_revised now path payload s)
  | _ => exact direct_apply h (fun a _ => h.apply now a) rfl

end GraphUpdate

namespace Store

/-- What every update keeps holds after all of them. -/
theorem updated_induction {P : Store → Prop} {Q : GraphUpdate → Prop}
    (hstep : ∀ now u s, Q u → P s → P (u.apply now s)) {s : Store} (h : P s) (updates : List (Time × GraphUpdate))
    (hq : ∀ u ∈ updates, Q u.2) : P (s.updated updates) := by
  induction updates generalizing s with
  | nil => exact h
  | cons u rest ih =>
    exact ih (hstep u.1 u.2 s (hq u List.mem_cons_self) h) fun v hv => hq v (List.mem_cons_of_mem u hv)

theorem updated_wellFormed (limit : Option Nat) (updates : List (Time × GraphUpdate)) :
    ((empty limit).updated updates).WellFormed :=
  updated_induction (P := WellFormed) (Q := fun _ => True) (fun _ u _ _ h => u.apply_wellFormed h)
    (WellFormed.empty limit) updates fun _ _ => trivial

end Store

/-- What holds of a store and is kept by every file that is created and by every source whose imports
are replaced is kept by a report on the project. -/
theorem ProjectUpdate.apply_induction {P : Store → Prop} {now : Time} {u : ProjectUpdate} {s : Store} (h : P s)
    (hfile : ∀ s, ∀ path ∈ u.files, P s → P (s.ensureNode now path Node.fileKind .file).1)
    (hsource : ∀ s payload, ∀ source ∈ u.dependencies.toList, P s →
      P (DependencyChange.apply now ⟨source.1, source.2⟩ payload s).1) : P (u.apply now s).1 := by
  have hfiles : P (u.files.foldl (ensureFile now) ⟨s, ∅⟩).store :=
    List.foldlRecOn (motive := fun p : DependencyChange.Progress => P p.store) u.files _ h
      fun p hp path hpath => hfile p.store path hpath hp
  exact List.foldlRecOn (motive := fun p : DependencyChange.Progress => P p.store) u.dependencies.toList _ hfiles
    fun p hp source hsrc => hsource p.store _ source hsrc hp

end CodeGraph
