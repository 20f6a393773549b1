import CodeGraph.Project.Structure
import CodeGraph.Proofs.Graph.Action
/-!
How the updates of a graph are made of actions. Whatever an event, an analysis or a report on the
project does to the graph, it removes no node.
-/
namespace CodeGraph

namespace Store
variable {s s' : Store} {now : Time} {data : Json} {id : String} {key : EdgeKey}

theorem upsertNode_eq (s : Store) (now : Time) (data : Json) : s.upsertNode now data =
    (NodePatch.parse data).map fun p => (p.id, (StoreAction.edit p.id p.kind .file data (.patch p)).apply now s) := by
  simp only [upsertNode, bind, Except.bind, Except.map]
  split <;> rfl

theorem upsertEdge_eq (s : Store) (now : Time) (data : Json) : s.upsertEdge now data =
    (Edge.parse data).map fun e => (e.key, (StoreAction.link e data).apply now s) := by
  simp only [upsertEdge, bind, Except.bind, Except.map]
  split <;> rfl

theorem upsertNode_revised (h : s.upsertNode now data = .ok (id, s')) : Revised now s s' := by
  rw [upsertNode_eq] at h
  cases hp : NodePatch.parse data with
  | error fault => simp [hp, Except.map] at h
  | ok p =>
    simp only [hp, Except.map, Except.ok.injEq, Prod.mk.injEq] at h
    rw [← h.2]
    exact Revised.apply _ rfl s

theorem upsertEdge_revised (h : s.upsertEdge now data = .ok (key, s')) : Revised now s s' := by
  rw [upsertEdge_eq] at h
  cases hp : Edge.parse data with
  | error fault => simp [hp, Except.map] at h
  | ok e =>
    simp only [hp, Except.map, Except.ok.injEq, Prod.mk.injEq] at h
    rw [← h.2]
    exact Revised.apply _ rfl s

theorem unlink_apply {source target : String} {e : Edge} (h : s.removeEdge now source target = .ok (e, s')) :
    (StoreAction.unlink source target).apply now s = s' := by
  simp only [StoreAction.apply, h]

theorem remove_apply {n : Node} (h : s.removeNode now id = .ok (n, s')) :
    (StoreAction.remove id).apply now s = s' := by
  simp only [StoreAction.apply, h]

theorem removeEdge_revised {source target : String} {e : Edge}
    (h : s.removeEdge now source target = .ok (e, s')) : Revised now s s' := by
  rw [← unlink_apply h]
  exact Revised.apply _ rfl s

theorem ensureNode_eq (s : Store) (now : Time) (id kind : String) (change : ChangeKind) :
    (s.ensureNode now id kind change).1 =
      if s.contains id then s else (StoreAction.edit id kind change (.obj [("created", .str id)]) .create).apply now s := by
  rw [ensureNode]
  split <;> rfl

theorem ensureNode_performs (s : Store) (now : Time) (id kind : String) (change : ChangeKind) :
    Performs now (fun s => s) (fun s => (s.ensureNode now id kind change).1) s := by
  cases hid : s.contains id with
  | true =>
    refine .nothing fun t ht => ?_
    rw [ensureNode_eq, if_pos ((ht.contains id).trans hid)]
  | false =>
    refine .one (.edit id kind change (.obj [("created", .str id)]) .create) rfl fun t ht => ?_
    rw [ensureNode_eq, if_neg (ne_true_of_eq_false ((ht.contains id).trans hid))]

theorem modify_revised (s : Store) (now : Time) (id kind : String) (change : ChangeKind) (payload : Json)
    (how : NodeEdit) : Revised now s (s.modify now id kind change payload how.apply).1 :=
  Revised.apply (.edit id kind change payload how) rfl s

end Store

open Store

namespace DependencyChange
variable (now : Time) (path target : String) (payload : Json)

theorem modify_performs (p : Progress) (id : String) (how : NodeEdit) :
    Performs now Progress.store (fun p => p.modify now id payload how.apply) p :=
  .one (.edit id Node.fileKind .dependency payload how) rfl fun _ _ => rfl

theorem link_performs (p : Progress) : Performs now Progress.store (link now path payload · target) p := by
  have hnode : Performs now Progress.store (fun q => q.modify now target payload (addUser path)) p :=
    modify_performs now payload p target (.addUser path)
  cases he : (p.modify now target payload (addUser path)).store.edge? path target with
  | some e =>
    refine hnode.andThen [] (by simp) fun q hq => ?_
    have he' := (hq.edge? path target).trans he
    simp only [link, he', perform_nil]
  | none =>
    refine hnode.andThen [.link (Edge.ofEnds path target Edge.importKind) payload] (by simp [StoreAction.removed?])
      fun q hq => ?_
    have he' := (hq.edge? path target).trans he
    simp only [link, he', perform_cons, perform_nil, StoreAction.apply]

theorem unlink_performs (p : Progress) : Performs now Progress.store (unlink now path payload · target) p := by
  have hnode : Performs now Progress.store
      (fun q => if q.store.contains target then q.modify now target payload (dropUser path) else q) p := by
    cases hheld : p.store.contains target with
    | true =>
      refine .one (.edit target Node.fileKind .dependency payload (.dropUser path)) rfl fun q hq => ?_
      rw [if_pos ((hq.contains target).trans hheld)]
      rfl
    | false =>
      refine .nothing fun q hq => ?_
      rw [if_neg (by simp [hq.contains, hheld])]
  cases he : (if p.store.contains target then p.modify now target payload (dropUser path) else p).store.edge? path
      target with
  | none =>
    refine hnode.andThen [] (by simp) fun q hq => ?_
    have he' := (hq.edge? path target).trans he
    simp only [unlink, he', perform_nil]
  | some e =>
    cases hkind : e.kind == Edge.importKind with
    | true =>
      refine hnode.andThen [.unlink path target] (by simp [StoreAction.removed?]) fun q hq => ?_
      have he' := (hq.edge? path target).trans he
      simp only [unlink, he', hkind, if_true, perform_cons, perform_nil, StoreAction.apply]
      cases (if q.store.contains target then q.modify now target payload (dropUser path) else q).store.removeEdge now path
        target <;> rfl
    | false =>
      refine hnode.andThen [] (by simp) fun q hq => ?_
      have he' := (hq.edge? path target).trans he
      simp only [unlink, he', hkind, Bool.false_eq_true, if_false, perform_nil]

theorem apply_performs (c : DependencyChange) (s : Store) :
    Performs now (fun s => s) (fun s => (c.apply now payload s).1) s := by
  have hstages : ∀ dropped : List String, Performs now Progress.store
      (fun p => dropped.foldl (unlink now c.path payload)
        (c.wanted.toList.foldl (link now c.path payload) (p.modify now c.path payload (setImports c.wanted)))) ⟨s, ∅⟩ :=
    fun _ => ((modify_performs now payload _ c.path (.imports c.wanted)).comp
      (.foldl (fun p t => link_performs now c.path t payload p) _ _)).comp
      (.foldl (fun p t => unlink_performs now c.path t payload p) _ _)
  cases hn : s.node? c.path with
  | none =>
    obtain ⟨as, has, hrun⟩ := hstages ((∅ : StringSet).toList.filter fun id => !c.wanted.contains id)
    refine ⟨as, has, fun t ht => ?_⟩
    have hn' := (ht.node? c.path).trans hn
    rw [← hrun ⟨t, ∅⟩ ht]
    simp only [apply, hn']
  | some n =>
    obtain ⟨as, has, hrun⟩ := hstages (n.relationships.imports.toList.filter fun id => !c.wanted.contains id)
    refine ⟨as, has, fun t ht => ?_⟩
    have hn' := (ht.node? c.path).trans hn
    rw [← hrun ⟨t, ∅⟩ ht]
    simp only [apply, hn']

theorem apply_revised (c : DependencyChange) (s : Store) : Revised now s (c.apply now payload s).1 :=
  (apply_performs now payload c s).revised

end DependencyChange

theorem AnalysisUpdate.apply_revised (now : Time) (u : AnalysisUpdate) (payload : Json) (s : Store) :
    Revised now s (u.apply now payload s).1 :=
  modify_revised s now u.path _ _ payload (.update u)

theorem AnalyzerResult.apply_revised (now : Time) (r : AnalyzerResult) (path : String) (payload : Json)
    (s : Store) : Revised now s (r.apply now path payload s).1 :=
  modify_revised s now path _ _ payload (.result r)

namespace ProjectUpdate
variable (now : Time) (p : DependencyChange.Progress)

theorem ensureFile_performs (path : String) :
    Performs now DependencyChange.Progress.store (ensureFile now · path) p := by
  obtain ⟨as, has, h⟩ := ensureNode_performs p.store now path Node.fileKind .file
  exact ⟨as, has, fun q hq => h q.store hq⟩

theorem applySource_performs (projectId : Option String) (source : String × List String) :
    Performs now DependencyChange.Progress.store (applySource now projectId · source) p := by
  obtain ⟨as, has, h⟩ := DependencyChange.apply_performs now
    (.obj [("dependencies", .ofList .str source.2), ("path", .str source.1), ("projectId", .ofOption .str projectId)])
    ⟨source.1, source.2⟩ p.store
  exact ⟨as, has, fun q hq => h q.store hq⟩

theorem apply_performs (u : ProjectUpdate) (s : Store) :
    Performs now (fun s => s) (fun s => (u.apply now s).1) s := by
  have hstages : Performs now DependencyChange.Progress.store
      (fun p => u.dependencies.toList.foldl (applySource now u.projectId) (u.files.foldl (ensureFile now) p)) ⟨s, ∅⟩ :=
    (Performs.foldl (fun p path => ensureFile_performs now p path) _ _).comp
      (.foldl (fun p source => applySource_performs now p u.projectId source) _ _)
  obtain ⟨as, has, hstages⟩ := hstages
  exact ⟨as, has, fun t ht => hstages ⟨t, ∅⟩ ht⟩

theorem ensureFile_revised (path : String) : Revised now p.store (ensureFile now p path).store :=
  (ensureFile_performs now p path).revised

theorem applySource_revised (projectId : Option String) (source : String × List String) :
    Revised now p.store (applySource now projectId p source).store :=
  (applySource_performs now p projectId source).revised

theorem apply_revised (u : ProjectUpdate) (s : Store) : Revised now s (u.apply now s).1 :=
  (apply_performs now u s).revised

end ProjectUpdate
end CodeGraph
