import Mathlib.Data.List.Basic
import CodeGraph.Proofs.Graph.WellFormed
/-!
When the numbers derived from a node stay as they are. Every change of them is noted, but for one: a
node that is removed takes its edges along, and the nodes at their other ends are noted only if they
mention it.
-/
namespace CodeGraph.Store

/-- Removing a node takes an edge from another one that does not mention it. -/
def Bereaves (s : Store) (id x : String) : Prop :=
  x ≠ id ∧ (∃ e ∈ s.edgeList, e.touches id = true ∧ e.touches x = true) ∧
    ∃ n, s.node? x = some n ∧ n.mentions id = false

/-- One of some removals takes an edge from a node that does not mention what is removed. -/
def Loses (removals : List (Store × String)) (x : String) : Prop :=
  ∃ r ∈ removals, r.1.Bereaves r.2 x

theorem length_filter_edgeList (s : Store) (p : Edge → Bool) :
    (s.edgeList.filter p).length = (s.edges.filter fun _ e => p e).size := by
  rw [← Std.ExtTreeMap.length_toList, Std.ExtTreeMap.toList_filter, edgeList, List.filter_map,
    List.length_map]
  rfl

/-- Edges under one key do not matter to a filter that takes none of them. -/
theorem filter_eq_of_agree {m m' : EdgeMap} {k : EdgeKey} {p : Edge → Bool} (hout : ∀ j, j ≠ k → m'[j]? = m[j]?)
    (hm : ∀ e, m[k]? = some e → p e = false) (hm' : ∀ e, m'[k]? = some e → p e = false) :
    (m'.filter fun _ e => p e) = m.filter fun _ e => p e := by
  apply Std.ExtTreeMap.ext_getElem?
  intro j
  rw [Std.ExtTreeMap.getElem?_filter', Std.ExtTreeMap.getElem?_filter']
  by_cases hj : j = k
  · subst hj
    have hnone : m[j]?.filter (fun e => p e) = none :=
      Option.filter_eq_none_iff.mpr fun e he => by simp [hm e he]
    have hnone' : m'[j]?.filter (fun e => p e) = none :=
      Option.filter_eq_none_iff.mpr fun e he => by simp [hm' e he]
    rw [hnone, hnone']
  · rw [hout j hj]

theorem filter_insert_of_not {m : EdgeMap} {k : EdgeKey} {e : Edge} {p : Edge → Bool}
    (he : p e = false) (hm : ∀ e', m[k]? = some e' → p e' = false) :
    ((m.insert k e).filter fun _ e => p e) = m.filter fun _ e => p e := by
  refine filter_eq_of_agree (fun j hj => ?_) hm ?_
  · rw [Std.ExtTreeMap.getElem?_insert, if_neg]
    rw [Std.compare_eq_iff_eq]
    exact fun h => hj h.symm
  · intro e' he'
    rw [Std.ExtTreeMap.getElem?_insert_self] at he'
    rw [← Option.some.inj he', he]

theorem filter_erase_of_not {m : EdgeMap} {k : EdgeKey} {p : Edge → Bool}
    (hm : ∀ e', m[k]? = some e' → p e' = false) :
    ((m.erase k).filter fun _ e => p e) = m.filter fun _ e => p e := by
  refine filter_eq_of_agree (fun j hj => ?_) hm ?_
  · rw [Std.ExtTreeMap.getElem?_erase, if_neg]
    rw [Std.compare_eq_iff_eq]
    exact fun h => hj h.symm
  · intro e he
    rw [Std.ExtTreeMap.getElem?_erase_self] at he
    cases he

theorem touches_eq_false {e : Edge} {k : EdgeKey} {x : String} (hk : e.key = k)
    (hx : ¬ (x = k.1 ∨ x = k.2)) : e.touches x = false := by
  subst hk
  simp only [Edge.touches, Bool.or_eq_false_iff, beq_eq_false_iff_ne]
  exact ⟨fun h => hx (Or.inl h.symm), fun h => hx (Or.inr h.symm)⟩

section Left
variable {edges : List Edge} {id : String} {p : Edge → Bool}

theorem length_left_le (edges : List Edge) (id : String) (p : Edge → Bool) :
    ((edges.filter fun e => !e.touches id).filter p).length ≤ (edges.filter p).length := by
  rw [List.filter_comm]
  exact List.length_filter_le _ _

theorem length_left_eq (h : ∀ e ∈ edges, p e = true → e.touches id = false) :
    ((edges.filter fun e => !e.touches id).filter p).length = (edges.filter p).length := by
  rw [List.filter_comm, List.filter_eq_self.mpr]
  intro e he
  obtain ⟨he, hp⟩ := List.mem_filter.mp he
  simp [h e he hp]

theorem length_left_lt {e : Edge} (he : e ∈ edges) (hp : p e = true) (hid : e.touches id = true) :
    ((edges.filter fun e => !e.touches id).filter p).length < (edges.filter p).length := by
  rw [List.filter_comm, List.length_filter_lt_length_iff_exists]
  exact ⟨e, List.mem_filter.mpr ⟨he, hp⟩, by simp [hid]⟩

end Left

/-- The two degrees of a node depend only on the edges that touch it. -/
theorem degrees_eq {s s' : Store} {x : String}
    (h : ∀ p : Edge → Bool, (∀ e, e.touches x = false → p e = false) →
      (s'.edges.filter fun _ e => p e) = s.edges.filter fun _ e => p e) :
    s'.inDegree x = s.inDegree x ∧ s'.outDegree x = s.outDegree x := by
  simp only [inDegree, outDegree, length_filter_edgeList]
  constructor
  · rw [h (fun e => e.target == x) fun e he => (Bool.or_eq_false_iff.mp he).2]
  · rw [h (fun e => e.source == x) fun e he => (Bool.or_eq_false_iff.mp he).1]

/-- What becomes of a node that is not noted as changed: at most it loses edges. -/
structure Keeps (s s' : Store) (x : String) (lost : Prop) : Prop where
  node : ∃ n n', s.node? x = some n ∧ s'.node? x = some n' ∧ n.SameFigures n'
  kept : ¬ lost → s'.inDegree x = s.inDegree x ∧ s'.outDegree x = s.outDegree x
  fewer : s'.inDegree x + s'.outDegree x ≤ s.inDegree x + s.outDegree x
  less : lost → s'.inDegree x + s'.outDegree x < s.inDegree x + s.outDegree x

namespace Keeps
variable {s s' s'' : Store} {x : String} {p q : Prop}

theorem of_eq {n n' : Node} (hn : s.node? x = some n) (hn' : s'.node? x = some n')
    (h : n.SameFigures n') (hd : s'.inDegree x = s.inDegree x ∧ s'.outDegree x = s.outDegree x)
    (hp : ¬ p) : Keeps s s' x p where
  node := ⟨n, n', hn, hn', h⟩
  kept _ := hd
  fewer := by omega
  less h := absurd h hp

theorem trans (h : Keeps s s' x p) (h' : Keeps s' s'' x q) : Keeps s s'' x (p ∨ q) where
  node := by
    obtain ⟨n, n₁, hn, hn₁, hs⟩ := h.node
    obtain ⟨n₁', n₂, hn₁', hn₂, hs'⟩ := h'.node
    rw [hn₁] at hn₁'
    cases hn₁'
    exact ⟨n, n₂, hn, hn₂, hs.trans hs'⟩
  kept hpq := by
    have h₁ := h.kept fun hp => hpq (Or.inl hp)
    have h₂ := h'.kept fun hq => hpq (Or.inr hq)
    omega
  fewer := Nat.le_trans h'.fewer h.fewer
  less hpq := by
    have h₁ := h.fewer
    have h₂ := h'.fewer
    rcases hpq with hp | hq
    · have := h.less hp
      omega
    · have := h'.less hq
      omega

/-- What is derived from a node that lost no edge is what was derived from it before. -/
theorem derive_eq (h : Keeps s s' x p) (hw : s.WellFormed) (hp : ¬ p) {n : Node} (hn : s.node? x = some n)
    (now : Time) : ∃ n', s'.node? x = some n' ∧ s'.derive now n' = s.derive now n := by
  obtain ⟨n₁, n', hn₁, hn', hs⟩ := h.node
  rw [hn] at hn₁
  cases hn₁
  obtain ⟨hi, ho⟩ := h.kept hp
  have hid : n.id = x := hw.node_id hn
  refine ⟨n', hn', ?_⟩
  simp only [derive, dependents, hs.id, hs.dependencies, hs.relationships, hid, hi, ho, hs.risk]

/-- What is derived from a node that lost an edge has changed. -/
theorem derive_ne (h : Keeps s s' x p) (hw : s.WellFormed) (hp : p) {n n' : Node} (hn : s.node? x = some n)
    (hn' : s'.node? x = some n') (now : Time) : s'.derive now n' ≠ s.derive now n := by
  obtain ⟨n₀, n₁, hn₀, hn₁, hs⟩ := h.node
  rw [hn] at hn₀
  rw [hn'] at hn₁
  cases hn₀
  cases hn₁
  have hid : n.id = x := hw.node_id hn
  have hid' : n'.id = x := hs.id.trans hid
  intro heq
  have hin : s'.inDegree x = s.inDegree x := by
    have := congrArg DerivedMetrics.inDegree heq
    simpa only [derive, hid, hid'] using this
  have hout : s'.outDegree x = s.outDegree x := by
    have := congrArg DerivedMetrics.outDegree heq
    simpa only [derive, hid, hid'] using this
  have hless := h.less hp
  omega

end Keeps

section Actions
variable {s : Store} {x : String} {n : Node}

theorem keeps_edit (hw : s.WellFormed) (now : Time) (id kind : String) (change : ChangeKind)
    (payload : Json) (how : NodeEdit) (hn : s.node? x = some n)
    (hx : x ∉ (s.modify now id kind change payload how.apply).1.dirty) :
    Keeps s (s.modify now id kind change payload how.apply).1 x False := by
  rw [mem_modify_dirty, not_or] at hx
  have hd : (s.modify now id kind change payload how.apply).1.inDegree x = s.inDegree x ∧
      (s.modify now id kind change payload how.apply).1.outDegree x = s.outDegree x :=
    degrees_eq fun p _ => by rw [modify_edges]
  by_cases hid : id = x
  · subst hid
    have hsame : s.editsNothing id kind how.apply = true := by
      cases h : s.editsNothing id kind how.apply with
      | true => rfl
      | false => exact absurd ⟨h, rfl⟩ hx.2
    have heq : (n == s.edited id kind how.apply) = true := by
      rw [editsNothing, hn] at hsame
      exact hsame
    refine Keeps.of_eq hn ?_ (Node.sameFigures_of_beq (hw.inRange hn) (hw.edited_inRange id kind how) heq)
      hd not_false
    rw [node?, modify_nodes, Std.ExtTreeMap.getElem?_insert_self]
  · refine Keeps.of_eq hn ?_ (Node.SameFigures.refl n) hd not_false
    rw [node?, modify_nodes, Std.ExtTreeMap.getElem?_insert, if_neg]
    · exact hn
    · rwa [Std.compare_eq_iff_eq]

theorem keeps_link (hw : s.WellFormed) (now : Time) (edge : Edge) (payload : Json)
    (hn : s.node? x = some n) (hx : x ∉ (s.putEdge now edge payload).1.dirty) :
    Keeps s (s.putEdge now edge payload).1 x False := by
  rw [mem_putEdge_dirty, not_or] at hx
  refine Keeps.of_eq hn ?_ (Node.SameFigures.refl n) (degrees_eq fun p hp => ?_) not_false
  · rw [node?, putEdge_nodes]
    exact hn
  · rw [putEdge_edges]
    split
    · rfl
    · next h =>
      have hends : ¬ (x = edge.source ∨ x = edge.target) := fun hx' => hx.2 ⟨by simpa using h, hx'⟩
      have hfar : ∀ e : Edge, e.key = edge.key → p e = false :=
        fun e hk => hp e (touches_eq_false hk hends)
      exact filter_insert_of_not (hfar edge rfl) fun e' he' => hfar e' (hw.edge_key he')

theorem keeps_unlink (hw : s.WellFormed) (now : Time) (source target : String)
    (hn : s.node? x = some n) (hx : x ∉ ((StoreAction.unlink source target).apply now s).dirty) :
    Keeps s ((StoreAction.unlink source target).apply now s) x False := by
  simp only [StoreAction.apply] at hx ⊢
  rcases s.removeEdge_cases now source target with ⟨-, hr⟩ | ⟨e, s', -, hr, hnodes, hedges, hdirty⟩
  · rw [hr]
    exact Keeps.of_eq hn hn (Node.SameFigures.refl n) ⟨rfl, rfl⟩ not_false
  · simp only [hr, hdirty, not_or] at hx ⊢
    refine Keeps.of_eq hn ?_ (Node.SameFigures.refl n) (degrees_eq fun p hp => ?_) not_false
    · rw [node?, hnodes]
      exact hn
    · rw [hedges]
      exact filter_erase_of_not fun e' he' => hp e' (touches_eq_false (hw.edge_key he') (not_or.mpr hx.2))

theorem loses_removal_iff {id : String} (hid : s.contains id = true) (hne : x ≠ id) (hn : s.node? x = some n)
    (hm : n.mentions id = false) :
    Loses (s.removal id) x ↔ ∃ e ∈ s.edgeList, e.touches id = true ∧ e.touches x = true := by
  simp only [Loses, removal, hid, if_true, List.mem_singleton, exists_eq_left, Bereaves]
  exact ⟨fun h => h.2.1, fun h => ⟨hne, h, n, hn, hm⟩⟩

theorem keeps_remove (hw : s.WellFormed) (now : Time) (id : String) (hn : s.node? x = some n)
    (hx : x ∉ ((StoreAction.remove id).apply now s).dirty) :
    Keeps s ((StoreAction.remove id).apply now s) x (Loses (s.removal id) x) := by
  simp only [StoreAction.apply] at hx ⊢
  rcases s.removeNode_cases now id with ⟨hid, hr⟩ | ⟨m, s', hid, hr, hnodes, hedges, hdirty⟩
  · have hlost : ¬ Loses (s.removal id) x := by
      simp [Loses, removal, contains_eq, hid]
    rw [hr]
    exact Keeps.of_eq hn hn (Node.SameFigures.refl n) ⟨rfl, rfl⟩ hlost
  · simp only [hr, hdirty, not_or] at hx ⊢
    obtain ⟨-, hne, hmention⟩ := hx
    have hm : n.mentions id = false := by
      rw [← Bool.not_eq_true]
      exact fun h => hmention ⟨x, n, hne, hn, h, hw.node_id hn⟩
    have hnode : s'.node? x = some n := by
      rw [node?, hnodes, Std.ExtTreeMap.getElem?_map, Std.ExtTreeMap.getElem?_erase, if_neg]
      · rw [show s.nodes[x]? = some n from hn, Option.map_some, Node.forget_eq_self hm]
      · rw [Std.compare_eq_iff_eq]
        exact fun h => hne h.symm
    have hlost := loses_removal_iff (by rw [contains_eq, hid]; rfl) hne hn hm
    have hleft : s'.edgeList = s.edgeList.filter fun e => !e.touches id := by
      rw [edgeList, hedges, Std.ExtTreeMap.toList_filter, edgeList, List.filter_map]
      rfl
    constructor
    · exact ⟨n, n, hn, hnode, Node.SameFigures.refl n⟩
    · intro h
      rw [hlost] at h
      have hfree : ∀ e ∈ s.edgeList, e.touches x = true → e.touches id = false := by
        intro e he hex
        rw [← Bool.not_eq_true]
        exact fun hid => h ⟨e, he, hid, hex⟩
      simp only [inDegree, outDegree, hleft]
      constructor
      · rw [length_left_eq fun e he hp => hfree e he (by simp [Edge.touches, hp])]
      · rw [length_left_eq fun e he hp => hfree e he (by simp [Edge.touches, hp])]
    · simp only [inDegree, outDegree, hleft]
      have h₁ := length_left_le s.edgeList id fun e => e.target == x
      have h₂ := length_left_le s.edgeList id fun e => e.source == x
      omega
    · intro h
      obtain ⟨e, he, hid, hex⟩ := hlost.mp h
      simp only [inDegree, outDegree, hleft]
      have h₁ := length_left_le s.edgeList id fun e => e.target == x
      have h₂ := length_left_le s.edgeList id fun e => e.source == x
      rw [Edge.touches, Bool.or_eq_true] at hex
      rcases hex with hsource | htarget
      · have := length_left_lt he (p := fun e => e.source == x) hsource hid
        omega
      · have := length_left_lt he (p := fun e => e.target == x) htarget hid
        omega

theorem mem_dirty_perform (now : Time) (as : List StoreAction) (hx : x ∈ s.dirty) :
    x ∈ (s.perform now as).dirty := by
  induction as generalizing s with
  | nil => exact hx
  | cons a as ih => exact ih ((a.mem_dirty_apply now s x).mpr (Or.inl hx))

theorem keeps_apply (hw : s.WellFormed) (now : Time) (a : StoreAction) (hn : s.node? x = some n)
    (hx : x ∉ (a.apply now s).dirty) : Keeps s (a.apply now s) x (Loses (s.removalBy a) x) := by
  have hnone : Loses [] x = False := by simp [Loses]
  cases a with
  | edit id kind change payload how =>
    change Keeps s _ x (Loses [] x)
    rw [hnone]
    exact keeps_edit hw now id kind change payload how hn hx
  | link edge payload =>
    change Keeps s _ x (Loses [] x)
    rw [hnone]
    exact keeps_link hw now edge payload hn hx
  | unlink source target =>
    change Keeps s _ x (Loses [] x)
    rw [hnone]
    exact keeps_unlink hw now source target hn hx
  | remove id =>
    rw [removalBy, StoreAction.removed?, Option.toList_some, List.flatMap_singleton]
    exact keeps_remove hw now id hn hx

theorem loses_append (r r' : List (Store × String)) (x : String) :
    Loses (r ++ r') x ↔ Loses r x ∨ Loses r' x := by
  simp only [Loses, List.mem_append, or_and_right, exists_or]

/-- A node that no action notes keeps its figures, unless a removal takes an edge from it. -/
theorem keeps_perform (hw : s.WellFormed) (now : Time) (as : List StoreAction) (hn : s.node? x = some n)
    (hx : x ∉ (s.perform now as).dirty) :
    Keeps s (s.perform now as) x (Loses (removals now as s) x) := by
  induction as generalizing s n with
  | nil => exact Keeps.of_eq hn hn (Node.SameFigures.refl n) ⟨rfl, rfl⟩ (by simp [Loses, removals])
  | cons a as ih =>
    have hfirst := keeps_apply hw now a hn fun h => hx (mem_dirty_perform now as h)
    obtain ⟨n₀, n', -, hn', -⟩ := hfirst.node
    have hrest := ih (hw.apply now a) hn' hx
    simpa only [removals, loses_append, perform_cons] using hfirst.trans hrest

end Actions
end CodeGraph.Store
