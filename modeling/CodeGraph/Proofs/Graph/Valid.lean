import CodeGraph.Proofs.Graph.Names
/-!
What holds of every stored graph whatever was asked of it: ids are not empty, metrics are finite and in
their ranges, and so are the weights of edges. The ranges are kept by the operations themselves; ids and
weights are what the readers of payloads let through.
-/
namespace CodeGraph

theorem NodeEdit.apply_bounded (how : NodeEdit) {n : Node} (h : n.metrics.Bounded) : (how.apply n).metrics.Bounded := by
  obtain ⟨values, hvalues⟩ := how.metrics_apply n
  rw [hvalues]
  exact Metrics.setAll_bounded h values

/-- What an action may bring into a graph: a node under an id that is not empty, or a valid edge. -/
def StoreAction.Valid : StoreAction → Prop
  | edit id _ _ _ _ => id ≠ ""
  | link e _ => e.Valid
  | unlink _ _ | remove _ => True

theorem StoreAction.Direct.valid {a : StoreAction} (h : a.Direct) : a.Valid := by
  cases h with
  | upsertNode hp => exact (NodePatch.parse_id hp).nonempty
  | upsertEdge he => exact Edge.parse_valid he
  | removeNode id => trivial
  | removeEdge source target => trivial

namespace Store

structure Valid (s : Store) : Prop where
  id : ∀ {id n}, s.node? id = some n → id ≠ ""
  metrics : ∀ {id n}, s.node? id = some n → n.metrics.Bounded
  edge : ∀ {a b e}, s.edge? a b = some e → e.Valid

namespace Valid
variable {s : Store} {now : Time}

theorem empty (limit : Option Nat) : (Store.empty limit).Valid where
  id h := by simp [Store.empty, node?] at h
  metrics h := by simp [Store.empty, node?] at h
  edge h := by simp [Store.empty, edge?] at h

theorem getD_bounded (h : s.Valid) (id kind : String) : ((s.node? id).getD (.ofId id kind)).metrics.Bounded := by
  cases hn : s.node? id with
  | none => exact Metrics.default_bounded
  | some n => exact h.metrics hn

theorem apply (h : s.Valid) {a : StoreAction} (ha : a.Valid) : (a.apply now s).Valid := by
  constructor
  · intro x n hn
    rcases node?_apply hn with hold | ⟨kind, change, payload, how, rfl, -⟩ | ⟨id, m, -, hm, -⟩
    · exact h.id hold
    · exact ha
    · exact h.id hm
  · intro x n hn
    rcases node?_apply hn with hold | ⟨kind, change, payload, how, -, rfl⟩ | ⟨id, m, -, hm, rfl⟩
    · exact h.metrics hold
    · exact how.apply_bounded (h.getD_bounded x kind)
    · have hmetrics : m.metrics.Bounded := h.metrics hm
      exact hmetrics
  · intro a b e he
    rcases edge?_apply he with hold | ⟨payload, rfl, -⟩
    · exact h.edge hold
    · exact ha

theorem edit (h : s.Valid) {id : String} (hid : id ≠ "") (kind : String) (change : ChangeKind) (payload : Json)
    (how : NodeEdit) : (s.modify now id kind change payload how.apply).1.Valid :=
  h.apply (a := .edit id kind change payload how) hid

theorem ensureNode (h : s.Valid) {id : String} (hid : id ≠ "") (kind : String) (change : ChangeKind) :
    (s.ensureNode now id kind change).1.Valid := by
  unfold Store.ensureNode
  split
  · exact h
  · exact h.edit hid kind change _ .create

theorem replaced (h : s.Valid) {c : DependencyChange} (hc : c.Named) {t : Store} {reported : StringSet}
    (ht : c.Replaced s t reported) : t.Valid := by
  have hwanted : ∀ id ∈ c.wanted, id ≠ "" := fun id hid => hc.dependencies id (DependencyChange.mem_of_wanted hid)
  constructor
  · intro x n hn
    obtain ⟨m, -, hold | ⟨rfl | hmet, -⟩⟩ := ht.of_node hn
    · exact h.id hold
    · exact hc.path
    · exact hwanted x hmet
  · intro x n hn
    obtain ⟨m, rfl, hm⟩ := ht.of_node hn
    rw [DependencyChange.rewrite_metrics]
    rcases hm with hold | ⟨-, rfl⟩
    · exact h.metrics hold
    · exact Metrics.default_bounded
  · intro a b e he
    rcases ht.of_edge he with hold | ⟨-, hb, rfl⟩
    · exact h.edge hold
    · exact Edge.ofEnds_valid hc.path (hwanted b hb) _

end Valid
end Store

namespace GraphUpdate
variable {s : Store} {now : Time}

/-- Updates that stand for payloads of any content: what an event brings was read from one, and an answer
is about a path that is not empty. -/
def FromPayload : GraphUpdate → Prop
  | dependencies c payload => DependencyChange.parse payload = .ok c
  | analysis u payload => ∃ now, AnalysisUpdate.parse now payload = .ok u
  | project u => ∃ now root payload, u = ProjectUpdate.parse now root payload
  | result path _ _ => path ≠ ""
  | upsertNode _ | upsertEdge _ | removeNode _ | removeEdge _ _ | batchItem _ => True

theorem apply_valid (h : s.Valid) {u : GraphUpdate} (hu : u.FromPayload) : (u.apply now s).Valid := by
  cases u with
  | dependencies c payload => exact h.replaced (DependencyChange.parse_named hu) (c.apply_replaced now payload s)
  | analysis u payload =>
    obtain ⟨_, hu⟩ := hu
    exact h.edit (AnalysisUpdate.parse_path hu).nonempty _ _ _ (.update u)
  | project u =>
    obtain ⟨read, root, payload, rfl⟩ := hu
    have hnamed : (ProjectUpdate.parse read root payload).Named := ProjectUpdate.parse_named read root payload
    exact ProjectUpdate.apply_induction h (fun _ path hpath hs => hs.ensureNode (hnamed.files path hpath) _ _)
      fun s' payload source hsource hs => hs.replaced (hnamed.dependencies source hsource)
        (DependencyChange.apply_replaced ⟨source.1, source.2⟩ now payload s')
  | result path r payload => exact h.edit hu _ _ _ (.result r)
  | _ => exact direct_apply h (fun a ha => h.apply ha.valid) rfl

end GraphUpdate

namespace Store

/-- Whatever payloads ask for, nodes and edges stand under their own ids, which are not empty, and every
metric and every weight is finite and in its range. -/
theorem updated_in_range (limit : Option Nat) (updates : List (Time × GraphUpdate))
    (h : ∀ u ∈ updates, u.2.FromPayload) :
    let s := (empty limit).updated updates
    (∀ id n, s.node? id = some n → n.id = id ∧ id ≠ "" ∧
      (∀ k, (n.metrics.get k).isFinite = true ∧ 0 ≤ n.metrics.get k) ∧
      n.metrics.coverage ≤ 1 ∧ n.metrics.maintainability ≤ 1) ∧
    ∀ a b e, s.edge? a b = some e → e.source = a ∧ e.target = b ∧ a ≠ "" ∧ b ≠ "" ∧
      e.weight.isFinite = true ∧ 0 ≤ e.weight := by
  intro s
  have hw : s.WellFormed := updated_wellFormed limit updates
  have hs : s.Valid := updated_induction (P := Valid) (Q := GraphUpdate.FromPayload)
    (fun _ _ _ hu hs => GraphUpdate.apply_valid hs hu) (Valid.empty limit) updates h
  constructor
  · intro id n hn
    have hmetrics : n.metrics.Bounded := hs.metrics hn
    exact ⟨hw.node_id hn, hs.id hn, fun k => ⟨(hmetrics k).1, (hmetrics k).2.1⟩, (hmetrics .coverage).2.2 rfl,
      (hmetrics .maintainability).2.2 rfl⟩
  · intro a b e he
    have hvalid : e.Valid := hs.edge he
    obtain ⟨rfl, rfl⟩ := Prod.mk.inj (hw.edge_key he)
    exact ⟨rfl, rfl, hvalid.source, hvalid.target, hvalid.finite, hvalid.nonneg⟩

/-- Blanks around ids, metrics out of their ranges and a weight below zero, which is refused. -/
def unruly : List (Time × GraphUpdate) :=
  let now : Time := ⟨⟨2024, 1, 1⟩, 43200, 0⟩
  [ (now, .upsertNode (.obj [("id", .str " a "), ("metrics", .obj [("coverage", .nat 7), ("lines", .num (.int (-3)))]),
      ("type", .str "file")])),
    (now, .upsertEdge (.obj [("from", .str "a"), ("to", .str "b"), ("weight", .num (.int (-1)))])),
    (now, .batchItem (.obj [("data", .obj [("from", .str "a"), ("to", .str " c")]), ("operation", .str "add"),
      ("type", .str "edge")])),
    (now, .dependencies ⟨"b", ["a"]⟩ (.obj [("dependencies", .arr [.str "a", .str " "]), ("path", .str " b ")])),
    (now, .result "b" ⟨[(.maintainability, 7)], [], [], [], [], none⟩ .null)]

theorem unruly_in_range :
    (∀ u ∈ unruly, u.2.FromPayload) ∧
    (∀ id n, ((empty none).updated unruly).node? id = some n → n.metrics.maintainability ≤ 1) ∧
    ((empty none).updated unruly).nodes.keys = ["a", "b"] ∧
    ((empty none).updated unruly).edges.keys = [("a", "c"), ("b", "a")] := by
  have hread : ∀ u ∈ unruly, u.2.FromPayload := by
    simp only [unruly, List.forall_mem_cons, List.not_mem_nil, false_imp_iff, implies_true, and_true]
    exact ⟨trivial, trivial, trivial, rfl, by simp [GraphUpdate.FromPayload]⟩
  refine ⟨hread, fun id n hn => ?_, by decide +kernel, by decide +kernel⟩
  exact ((updated_in_range none unruly hread).1 id n hn).2.2.2.2

end Store
end CodeGraph
