import CodeGraph.Proofs.Batch.Plan
import CodeGraph.Proofs.List.Newest
/-!
What a limit on the history changes. Every operation on a store commutes with tightening the limit, whatever it adds
to the history on its way; so the limit shows in nothing but the history, which is cut to its newest entries.
-/
namespace CodeGraph

namespace Store

/-- The store with at most the newest `limit` changes, now and from now on. -/
def tighten (limit : Nat) (s : Store) : Store :=
  { s with history := s.history.rtake limit, historyLimit := some (s.historyLimit.elim limit (min limit)) }

variable (limit : Nat) (s : Store) (now : Time)

@[simp] theorem node?_tighten (id : String) : (s.tighten limit).node? id = s.node? id := rfl
@[simp] theorem contains_tighten (id : String) : (s.tighten limit).contains id = s.contains id := rfl
@[simp] theorem edges_tighten : (s.tighten limit).edges = s.edges := rfl
@[simp] theorem edge?_tighten (source target : String) :
    (s.tighten limit).edge? source target = s.edge? source target := rfl

theorem empty_tighten : (empty none).tighten limit = empty (some limit) := by
  simp only [tighten, empty, Option.elim_none, List.rtake_nil]

theorem keepNewest_tighten (history : List Change) (c : Change) :
    keepNewest (some (s.historyLimit.elim limit (min limit))) (history.rtake limit ++ [c]) =
      (keepNewest s.historyLimit (history ++ [c])).rtake limit := by
  cases s.historyLimit with
  | none => exact rtake_rtake_append history [c] (Nat.le_refl limit)
  | some m =>
    -- What is dropped before the addition would be dropped after it as well.
    calc (history.rtake limit ++ [c]).rtake (min limit m)
      _ = (history ++ [c]).rtake (min limit m) := rtake_rtake_append history [c] (Nat.min_le_left limit m)
      _ = ((history ++ [c]).rtake m).rtake limit := (rtake_rtake (history ++ [c]) m limit).symm

theorem tighten_record (kind : ChangeKind) (path : String) (payload : Json) :
    (s.record now kind path payload).tighten limit = (s.tighten limit).record now kind path payload := by
  simp only [record, tighten, keepNewest_tighten]

theorem modify_tighten (x kind : String) (change : ChangeKind) (payload : Json) (f : Node → Node) :
    (s.tighten limit).modify now x kind change payload f =
      (s.modify now x kind change payload f).map (tighten limit) id := by
  simp only [modify]
  rw [node?_tighten]
  split
  · rfl
  · simp only [Prod.map, tighten_record]
    rfl

theorem ensureNode_tighten (x kind : String) (change : ChangeKind) :
    (s.tighten limit).ensureNode now x kind change = (s.ensureNode now x kind change).map (tighten limit) id := by
  simp only [ensureNode]
  rw [contains_tighten]
  split
  · rfl
  · exact modify_tighten ..

theorem putEdge_tighten (edge : Edge) (payload : Json) :
    (s.tighten limit).putEdge now edge payload = (s.putEdge now edge payload).map (tighten limit) id := by
  simp only [putEdge]
  rw [edges_tighten]
  split
  · rfl
  · simp only [Prod.map, tighten_record]
    rfl

theorem removeNode_tighten (x : String) : (s.tighten limit).removeNode now x =
    (s.removeNode now x).map (Prod.map id (tighten limit)) := by
  simp only [removeNode, node?_tighten]
  cases s.node? x with
  | none => rfl
  | some n =>
    simp only [Except.map, Prod.map, tighten_record]
    rfl

theorem removeEdge_tighten (source target : String) : (s.tighten limit).removeEdge now source target =
    (s.removeEdge now source target).map (Prod.map id (tighten limit)) := by
  simp only [removeEdge, edge?_tighten]
  cases s.edge? source target with
  | none => rfl
  | some e =>
    simp only [Except.map, Prod.map, tighten_record]
    rfl

theorem upsertNode_tighten (data : Json) : (s.tighten limit).upsertNode now data =
    (s.upsertNode now data).map (Prod.map id (tighten limit)) := by
  simp only [upsertNode, bind, Except.bind, modify_tighten]
  cases NodePatch.parse data <;> rfl

theorem upsertEdge_tighten (data : Json) : (s.tighten limit).upsertEdge now data =
    (s.upsertEdge now data).map (Prod.map id (tighten limit)) := by
  simp only [upsertEdge, bind, Except.bind, putEdge_tighten]
  cases Edge.parse data <;> rfl

end Store

open Store

namespace DependencyChange
variable (limit : Nat) (now : Time)

/-- The progress with a tighter limit on its store. -/
def Progress.tighten (p : Progress) : Progress := { p with store := p.store.tighten limit }

@[simp] theorem Progress.store_tighten (p : Progress) : (p.tighten limit).store = p.store.tighten limit := rfl

variable (path target : String) (payload : Json) (p : Progress)

theorem modify_tighten (f : Node → Node) :
    (p.tighten limit).modify now target payload f = (p.modify now target payload f).tighten limit := by
  simp only [Progress.modify, Progress.tighten, Store.modify_tighten, Prod.map, id]

theorem link_tighten : link now path payload (p.tighten limit) target =
    (link now path payload p target).tighten limit := by
  simp only [link, modify_tighten]
  generalize p.modify now target payload (addUser path) = q
  rw [Progress.store_tighten, edge?_tighten]
  cases q.store.edge? path target with
  | some e => rfl
  | none => simp only [Progress.tighten, putEdge_tighten, Prod.map]

theorem unlink_tighten : unlink now path payload (p.tighten limit) target =
    (unlink now path payload p target).tighten limit := by
  have hmod : (if (p.tighten limit).store.contains target then
        (p.tighten limit).modify now target payload (dropUser path) else p.tighten limit) =
      (if p.store.contains target then p.modify now target payload (dropUser path) else p).tighten limit := by
    rw [modify_tighten]
    exact (apply_ite (Progress.tighten limit) _ _ _).symm
  simp only [unlink, hmod]
  generalize (if p.store.contains target then p.modify now target payload (dropUser path) else p) = q
  simp only [Progress.store_tighten, edge?_tighten, removeEdge_tighten]
  cases q.store.edge? path target with
  | none => rfl
  | some e =>
    dsimp only
    split
    · cases q.store.removeEdge now path target <;> rfl
    · rfl

theorem apply_tighten (c : DependencyChange) (s : Store) :
    c.apply now payload (s.tighten limit) = (c.apply now payload s).map (Store.tighten limit) id := by
  have hlink := fun p t => link_tighten limit now c.path t payload p
  have hunlink := fun p t => unlink_tighten limit now c.path t payload p
  have hstart : (⟨s.tighten limit, ∅⟩ : Progress) = Progress.tighten limit ⟨s, ∅⟩ := rfl
  simp only [apply, hstart, node?_tighten, modify_tighten]
  rw [List.foldl_hom (Progress.tighten limit) hlink, List.foldl_hom (Progress.tighten limit) hunlink]
  rfl

end DependencyChange

namespace ProjectUpdate
open DependencyChange
variable (limit : Nat) (now : Time) (p : Progress)

theorem ensureFile_tighten (path : String) :
    ensureFile now (p.tighten limit) path = (ensureFile now p path).tighten limit := by
  simp only [ensureFile, Progress.tighten, ensureNode_tighten, Prod.map, id]

theorem applySource_tighten (projectId : Option String) (source : String × List String) :
    applySource now projectId (p.tighten limit) source = (applySource now projectId p source).tighten limit := by
  simp only [applySource, Progress.tighten, DependencyChange.apply_tighten, Prod.map, id]

theorem apply_tighten (u : ProjectUpdate) (s : Store) :
    u.apply now (s.tighten limit) = (u.apply now s).map (Store.tighten limit) id := by
  have hstart : (⟨s.tighten limit, ∅⟩ : Progress) = Progress.tighten limit ⟨s, ∅⟩ := rfl
  simp only [apply, hstart]
  rw [List.foldl_hom (Progress.tighten limit) (ensureFile_tighten limit now),
    List.foldl_hom (Progress.tighten limit) fun p source => applySource_tighten limit now p u.projectId source]
  rfl

end ProjectUpdate

theorem StoreAction.apply_tighten (limit : Nat) (now : Time) (a : StoreAction) (s : Store) :
    a.apply now (s.tighten limit) = (a.apply now s).tighten limit := by
  cases a with
  | edit id kind change payload how => simp only [apply, Store.modify_tighten, Prod.map]
  | link edge payload => simp only [apply, putEdge_tighten, Prod.map]
  | unlink source target =>
    simp only [apply, removeEdge_tighten]
    cases s.removeEdge now source target <;> rfl
  | remove id =>
    simp only [apply, removeNode_tighten]
    cases s.removeNode now id <;> rfl

theorem BatchOperation.apply_tighten (limit : Nat) (now : Time) (op : BatchOperation) (s : Store) :
    op.apply now (s.tighten limit) = (op.apply now s).map (Store.tighten limit) := by
  have hsame : op.plan (s.tighten limit) = op.plan s := plan_congr rfl rfl op
  rw [apply_eq, apply_eq, hsame]
  cases op.plan s with
  | error fault => rfl
  | ok a => exact congrArg Except.ok (a.apply_tighten limit now s)

namespace BatchRun
variable (limit : Nat) (now : Time) (r : BatchRun) (s : Store)

theorem tryItem_tighten (item : Json) (index : Nat) : tryItem now item index r (s.tighten limit) =
    (tryItem now item index r s).map id (Store.tighten limit) := by
  simp only [tryItem, BatchOperation.apply_tighten]
  cases BatchOperation.parse item with
  | error fault => rfl
  | ok op =>
    simp only [bind, Except.bind]
    cases op.apply now s <;> rfl

theorem tryItems_tighten (n : Nat) : tryItems now n r (s.tighten limit) =
    (tryItems now n r s).map id (Store.tighten limit) := by
  induction n generalizing r s with
  | zero => rfl
  | succ n ih =>
    simp only [tryItems]
    cases r.pending with
    | nil => rfl
    | cons item rest => simp only [tryItem_tighten, Prod.map, id, ih]

end BatchRun

/-- What is asked of a store. -/
inductive StoreOp where
  | upsertNode (data : Json)
  | upsertEdge (data : Json)
  | modify (id kind : String) (change : ChangeKind) (payload : Json) (f : Node → Node)
  | ensureNode (id kind : String) (change : ChangeKind)
  | putEdge (edge : Edge) (payload : Json)
  | removeNode (id : String)
  | removeEdge (source target : String)
  | takeDirty
  | dependencies (change : DependencyChange) (payload : Json)
  | analysis (update : AnalysisUpdate) (payload : Json)
  | result (found : AnalyzerResult) (path : String) (payload : Json)
  | project (update : ProjectUpdate)
  | operation (op : BatchOperation)
  | chunk (run : BatchRun) (count : Nat)
  | node (id : String)
  | edge (source target : String)
  | nodes
  | edges
  | edgesOf (id : String)
  | inDegree (id : String)
  | outDegree (id : String)
  | dangling

namespace StoreOp

def Result : StoreOp → Type
  | upsertNode _ => Except ValidationError String
  | upsertEdge _ => Except ValidationError EdgeKey
  | modify .. | ensureNode .. | putEdge .. | analysis .. | result .. => Bool
  | removeNode _ => Except ValidationError Node
  | removeEdge .. => Except ValidationError Edge
  | takeDirty | dependencies .. | project _ => StringSet
  | operation _ => Except ValidationError Unit
  | chunk .. => BatchRun
  | node _ => Option Node
  | edge .. => Option Edge
  | nodes => List Node
  | edges | edgesOf _ => List Edge
  | inDegree _ | outDegree _ | dangling => Nat

/-- What is refused leaves the store as it is. -/
def settle (s : Store) : Except ValidationError (α × Store) → Except ValidationError α × Store
  | .ok (a, s') => (.ok a, s')
  | .error fault => (.error fault, s)

/-- Carries out an operation: its result, and the store after it. -/
def run (now : Time) (s : Store) : (op : StoreOp) → op.Result × Store
  | upsertNode data => settle s (s.upsertNode now data)
  | upsertEdge data => settle s (s.upsertEdge now data)
  | modify id kind change payload f => (s.modify now id kind change payload f).swap
  | ensureNode id kind change => (s.ensureNode now id kind change).swap
  | putEdge e payload => (s.putEdge now e payload).swap
  | removeNode id => settle s (s.removeNode now id)
  | removeEdge source target => settle s (s.removeEdge now source target)
  | takeDirty => s.takeDirty
  | dependencies change payload => (change.apply now payload s).swap
  | analysis update payload => (update.apply now payload s).swap
  | result found path payload => (found.apply now path payload s).swap
  | project update => (update.apply now s).swap
  | operation op => settle s ((op.apply now s).map fun s' => ((), s'))
  | chunk run count => run.runChunk now count s
  | node id => (s.node? id, s)
  | edge source target => (s.edge? source target, s)
  | nodes => (s.nodeList, s)
  | edges => (s.edgeList, s)
  | edgesOf id => (s.edgesOf id, s)
  | inDegree id => (s.inDegree id, s)
  | outDegree id => (s.outDegree id, s)
  | dangling => (s.danglingEdges, s)

variable (limit : Nat) (now : Time) (s : Store)

theorem settle_tighten {outcome outcome' : Except ValidationError (α × Store)}
    (h : outcome' = outcome.map (Prod.map id (tighten limit))) :
    settle (s.tighten limit) outcome' = (settle s outcome).map id (tighten limit) := by
  rw [h]
  cases outcome <;> rfl

/-- The result is the same under a tighter limit, and so is all that the operation does but for the limit. -/
theorem run_tighten (op : StoreOp) : op.run now (s.tighten limit) = (op.run now s).map id (tighten limit) := by
  cases op with
  | upsertNode data => exact settle_tighten limit s (upsertNode_tighten ..)
  | upsertEdge data => exact settle_tighten limit s (upsertEdge_tighten ..)
  | modify id kind change payload f => exact congrArg Prod.swap (modify_tighten ..)
  | ensureNode id kind change => exact congrArg Prod.swap (ensureNode_tighten ..)
  | putEdge e payload => exact congrArg Prod.swap (putEdge_tighten ..)
  | removeNode id => exact settle_tighten limit s (removeNode_tighten ..)
  | removeEdge source target => exact settle_tighten limit s (removeEdge_tighten ..)
  | dependencies change payload => exact congrArg Prod.swap (change.apply_tighten ..)
  | analysis update payload => exact congrArg Prod.swap (modify_tighten ..)
  | result found path payload => exact congrArg Prod.swap (modify_tighten ..)
  | project update => exact congrArg Prod.swap (update.apply_tighten ..)
  | operation op =>
    simp only [run, op.apply_tighten]
    cases op.apply now s <;> rfl
  | chunk run count => exact run.tryItems_tighten ..
  | _ => rfl

end StoreOp

namespace Store

/-- Carries out operations in order, each with its clock reading, and collects their results. -/
def serve (s : Store) : List (Time × StoreOp) → List (Σ op : StoreOp, op.Result) × Store
  | [] => ([], s)
  | (now, op) :: rest =>
    let (result, s) := op.run now s
    let (results, s) := s.serve rest
    (⟨op, result⟩ :: results, s)

theorem serve_tighten (limit : Nat) (s : Store) (ops : List (Time × StoreOp)) :
    (s.tighten limit).serve ops = (s.serve ops).map id (tighten limit) := by
  induction ops generalizing s with
  | nil => rfl
  | cons op rest ih =>
    obtain ⟨now, op⟩ := op
    simp only [serve, op.run_tighten, Prod.map, id, ih]

/-- A limit on the history shows neither in what operations answer nor in nodes, edges and notes; of the history,
it keeps the newest. -/
theorem serve_limited (limit : Nat) (ops : List (Time × StoreOp)) :
    let full := (empty none).serve ops
    let kept := (empty (some limit)).serve ops
    kept.1 = full.1 ∧ kept.2.nodes = full.2.nodes ∧ kept.2.edges = full.2.edges ∧ kept.2.dirty = full.2.dirty ∧
      kept.2.history <:+ full.2.history ∧ kept.2.history.length = min limit full.2.history.length := by
  intro full kept
  have hkept : kept = full.map id (tighten limit) := by
    rw [← serve_tighten, empty_tighten]
  rw [hkept]
  exact ⟨rfl, rfl, rfl, rfl, rtake_suffix full.2.history limit, length_rtake full.2.history limit⟩

end Store
end CodeGraph
