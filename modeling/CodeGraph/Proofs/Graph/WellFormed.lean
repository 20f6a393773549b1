import CodeGraph.Proofs.Graph.Lookup
/-!
What every stored graph is: nodes and edges stand under their own ids, and magnitudes are in their
range.
-/
namespace CodeGraph.Store

structure WellFormed (s : Store) : Prop where
  node_id : ∀ {id : String} {n : Node}, s.nodes[id]? = some n → n.id = id
  edge_key : ∀ {k : EdgeKey} {e : Edge}, s.edges[k]? = some e → e.key = k
  inRange : ∀ {id : String} {n : Node}, s.nodes[id]? = some n → n.metrics.InRange

namespace WellFormed
variable {s : Store}

theorem empty (limit : Option Nat) : (Store.empty limit).WellFormed where
  node_id h := by simp [Store.empty] at h
  edge_key h := by simp [Store.empty] at h
  inRange h := by simp [Store.empty] at h

theorem edited_id (h : s.WellFormed) (id kind : String) (how : NodeEdit) :
    (s.edited id kind how.apply).id = id := by
  simp only [edited, NodeEdit.apply_id]
  cases hn : s.node? id with
  | none => rfl
  | some n => exact h.node_id hn

theorem edited_inRange (h : s.WellFormed) (id kind : String) (how : NodeEdit) :
    (s.edited id kind how.apply).metrics.InRange := by
  apply NodeEdit.apply_inRange
  cases hn : s.node? id with
  | none => exact Metrics.default_inRange
  | some n => exact h.inRange hn

theorem apply (h : s.WellFormed) (now : Time) (a : StoreAction) : (a.apply now s).WellFormed := by
  constructor
  · intro x n hn
    rcases node?_apply hn with hold | ⟨kind, change, payload, how, -, rfl⟩ | ⟨id, m, -, hm, rfl⟩
    · exact h.node_id hold
    · exact h.edited_id x kind how
    · have hid : m.id = x := h.node_id hm
      exact hid
  · intro key e he
    rcases edge?_apply he with hold | ⟨payload, -, hkey⟩
    · exact h.edge_key hold
    · exact hkey
  · intro x n hn
    rcases node?_apply hn with hold | ⟨kind, change, payload, how, -, rfl⟩ | ⟨id, m, -, hm, rfl⟩
    · exact h.inRange hold
    · exact h.edited_inRange x kind how
    · have hrange : m.metrics.InRange := h.inRange hm
      exact hrange

theorem perform (h : s.WellFormed) (now : Time) (as : List StoreAction) : (s.perform now as).WellFormed := by
  induction as generalizing s with
  | nil => exact h
  | cons a as ih => exact ih (h.apply now a)

theorem mem_nodeList (h : s.WellFormed) {n : Node} (hn : n ∈ s.nodeList) : s.node? n.id = some n := by
  obtain ⟨⟨id, n⟩, hmem, rfl⟩ := List.mem_map.mp hn
  have hstored := Std.ExtTreeMap.mem_toList_iff_getElem?_eq_some.mp hmem
  rwa [← h.node_id hstored] at hstored

theorem mem_nodeList_iff (h : s.WellFormed) {n : Node} : n ∈ s.nodeList ↔ s.node? n.id = some n := by
  refine ⟨h.mem_nodeList, fun hn => ?_⟩
  exact List.mem_map.mpr ⟨(n.id, n), Std.ExtTreeMap.mem_toList_iff_getElem?_eq_some.mpr hn, rfl⟩

theorem map_id_nodeList (h : s.WellFormed) : s.nodeList.map (·.id) = s.nodes.keys := by
  rw [← Std.ExtTreeMap.map_fst_toList_eq_keys, nodeList, List.map_map]
  refine List.map_congr_left fun entry hentry => ?_
  have hid : entry.2.id = entry.1 := h.node_id (Std.ExtTreeMap.mem_toList_iff_getElem?_eq_some.mp hentry)
  exact hid

theorem nodeList_sorted (h : s.WellFormed) : (s.nodeList.map (·.id)).Pairwise (· < ·) := by
  rw [h.map_id_nodeList]
  exact s.nodes.ordered_keys.imp fun hlt => compareOfLessAndEq_eq_lt.mp hlt

theorem mem_edgeList (h : s.WellFormed) {e : Edge} (he : e ∈ s.edgeList) : s.edge? e.source e.target = some e := by
  obtain ⟨⟨k, e⟩, hmem, rfl⟩ := List.mem_map.mp he
  have hstored := Std.ExtTreeMap.mem_toList_iff_getElem?_eq_some.mp hmem
  rwa [← h.edge_key hstored] at hstored

end WellFormed
end CodeGraph.Store
