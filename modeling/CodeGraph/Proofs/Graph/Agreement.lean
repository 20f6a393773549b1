import CodeGraph.Proofs.Graph.Lookup
import CodeGraph.Proofs.Graph.Comparison
/-!
When two stores hold the same nodes and edges as far as the program can tell. Its comparison is symmetric and
transitive, but a number that is none is unequal to itself, and so is a store with one.
-/
namespace CodeGraph

/-! ### The comparison -/

instance partialEquivFloat : PartialEquivBEq Float where
  symm := float_beq_symm
  trans {a b c} hab hbc := by rw [float_beq_congr hab c, hbc]

/-- Places in which something may be stored compare as what is stored there. -/
instance partialEquivOption {α : Type} [BEq α] [PartialEquivBEq α] : PartialEquivBEq (Option α) where
  symm {a b} h := by
    cases a <;> cases b
    · rfl
    · cases h
    · cases h
    · exact PartialEquivBEq.symm (α := α) h
  trans {a b c} hab hbc := by
    cases a <;> cases b <;> cases c
    · rfl
    · cases hbc
    · cases hab
    · cases hab
    · cases hab
    · cases hab
    · cases hbc
    · exact PartialEquivBEq.trans (α := α) hab hbc

theorem Metrics.beq_iff {m m' : Metrics} : (m == m') = true ↔ ∀ k : Metric, (m.get k == m'.get k) = true := by
  refine ⟨Metrics.beq_get, fun h => ?_⟩
  cases m
  cases m'
  change instBEqMetrics.beq _ _ = true
  simp only [instBEqMetrics.beq, Bool.and_eq_true]
  exact ⟨h .complexity, h .lines, h .coverage, h .maintainability, h .cognitiveComplexity, h .cyclomaticComplexity,
    h .halsteadVolume, h .halsteadDifficulty, h .halsteadEffort⟩

instance : PartialEquivBEq Metrics where
  symm h := Metrics.beq_iff.mpr fun k => BEq.symm (Metrics.beq_iff.mp h k)
  trans h h' := Metrics.beq_iff.mpr fun k => BEq.trans (Metrics.beq_iff.mp h k) (Metrics.beq_iff.mp h' k)

instance : PartialEquivBEq Node where
  symm {a b} h := by
    obtain ⟨hmetrics, hrest⟩ := Node.beq_iff.mp h
    exact Node.beq_iff.mpr ⟨BEq.symm hmetrics, by rw [← hrest]⟩
  trans {a b c} hab hbc := by
    obtain ⟨hmetrics, hrest⟩ := Node.beq_iff.mp hab
    obtain ⟨hmetrics', hrest'⟩ := Node.beq_iff.mp hbc
    exact Node.beq_iff.mpr ⟨BEq.trans hmetrics hmetrics', by rw [← hrest', ← hrest]⟩

theorem EdgeDetails.beq_iff {d d' : EdgeDetails} : (d == d') = true ↔ d.lineNumber = d'.lineNumber ∧
    d.context = d'.context ∧ (d.strength == d'.strength) = true ∧ d.bidirectional = d'.bidirectional := by
  cases d
  cases d'
  change instBEqEdgeDetails.beq _ _ = true ↔ _
  simp only [instBEqEdgeDetails.beq, Bool.and_eq_true, beq_iff_eq]

instance : PartialEquivBEq EdgeDetails where
  symm h := by
    obtain ⟨hline, hcontext, hstrength, hboth⟩ := EdgeDetails.beq_iff.mp h
    exact EdgeDetails.beq_iff.mpr ⟨hline.symm, hcontext.symm, BEq.symm hstrength, hboth.symm⟩
  trans h h' := by
    obtain ⟨hline, hcontext, hstrength, hboth⟩ := EdgeDetails.beq_iff.mp h
    obtain ⟨hline', hcontext', hstrength', hboth'⟩ := EdgeDetails.beq_iff.mp h'
    exact EdgeDetails.beq_iff.mpr ⟨hline.trans hline', hcontext.trans hcontext', BEq.trans hstrength hstrength',
      hboth.trans hboth'⟩

theorem Edge.beq_iff {e e' : Edge} : (e == e') = true ↔ e.source = e'.source ∧ e.target = e'.target ∧
    e.kind = e'.kind ∧ (e.weight == e'.weight) = true ∧ (e.details == e'.details) = true := by
  cases e
  cases e'
  change instBEqEdge.beq _ _ = true ↔ _
  simp only [instBEqEdge.beq, Bool.and_eq_true, beq_iff_eq]

instance : PartialEquivBEq Edge where
  symm h := by
    obtain ⟨hsource, htarget, hkind, hweight, hdetails⟩ := Edge.beq_iff.mp h
    exact Edge.beq_iff.mpr ⟨hsource.symm, htarget.symm, hkind.symm, BEq.symm hweight, BEq.symm hdetails⟩
  trans h h' := by
    obtain ⟨hsource, htarget, hkind, hweight, hdetails⟩ := Edge.beq_iff.mp h
    obtain ⟨hsource', htarget', hkind', hweight', hdetails'⟩ := Edge.beq_iff.mp h'
    exact Edge.beq_iff.mpr ⟨hsource.trans hsource', htarget.trans htarget', hkind.trans hkind',
      BEq.trans hweight hweight', BEq.trans hdetails hdetails'⟩

/-! ### Stores -/

namespace Store
variable {s s' s'' : Store} {now : Time}

/-- No node and no edge is found to differ. -/
structure Agrees (s s' : Store) : Prop where
  node : ∀ x, (s.node? x == s'.node? x) = true
  edge : ∀ a b, (s.edge? a b == s'.edge? a b) = true

namespace Agrees

theorem symm (h : s.Agrees s') : s'.Agrees s := ⟨fun x => BEq.symm (h.node x), fun a b => BEq.symm (h.edge a b)⟩

theorem trans (h : s.Agrees s') (h' : s'.Agrees s'') : s.Agrees s'' :=
  ⟨fun x => BEq.trans (h.node x) (h'.node x), fun a b => BEq.trans (h.edge a b) (h'.edge a b)⟩

/-- A store that agrees with any other agrees with itself. -/
theorem self (h : s.Agrees s') : s.Agrees s := h.trans h.symm

end Agrees

theorem agrees_modify_iff (s : Store) (now : Time) (id kind : String) (change : ChangeKind) (payload : Json)
    (f : Node → Node) :
    s.Agrees (s.modify now id kind change payload f).1 ↔ s.Agrees s ∧ s.editsNothing id kind f = true := by
  have hnode := s.node?_modify now id kind change payload f
  have hedge := s.edge?_modify now id kind change payload f
  constructor
  · intro h
    have hid := h.node id
    rw [hnode, if_pos rfl] at hid
    exact ⟨h.self, hid⟩
  · rintro ⟨h, hsame⟩
    refine ⟨fun x => ?_, fun a b => (hedge a b).symm ▸ h.edge a b⟩
    rw [hnode]
    split
    · next hx => exact hx ▸ hsame
    · exact h.node x

theorem agrees_putEdge_iff (s : Store) (now : Time) (edge : Edge) (payload : Json) :
    s.Agrees (s.putEdge now edge payload).1 ↔ s.Agrees s ∧ s.hasEdge edge = true := by
  have hnode := s.node?_putEdge now payload edge
  have hedge := s.edge?_putEdge now payload edge
  constructor
  · intro h
    refine ⟨h.self, ?_⟩
    cases hnew : s.hasEdge edge with
    | true => rfl
    | false =>
      have hput := h.edge edge.source edge.target
      rw [hedge, if_pos ⟨hnew, rfl⟩] at hput
      exact hnew.symm.trans hput
  · rintro ⟨h, hstored⟩
    refine ⟨fun x => (hnode x).symm ▸ h.node x, fun a b => ?_⟩
    rw [hedge, if_neg (by simp [hstored])]
    exact h.edge a b

theorem differs_removeEdge {source target : String} {e : Edge} (h : s.removeEdge now source target = .ok (e, s')) :
    ¬ s.Agrees s' := by
  intro hsame
  rcases s.removeEdge_cases now source target with ⟨-, hr⟩ | ⟨e', s'', he, -⟩
  · rw [hr] at h
    cases h
  · have hgone := hsame.edge source target
    rw [(lookup_removeEdge h).2, if_pos rfl, he] at hgone
    cases hgone

theorem differs_removeNode {id : String} {n : Node} (h : s.removeNode now id = .ok (n, s')) : ¬ s.Agrees s' := by
  intro hsame
  rcases s.removeNode_cases now id with ⟨-, hr⟩ | ⟨n', s'', hn, -⟩
  · rw [hr] at h
    cases h
  · have hgone := hsame.node id
    rw [(lookup_removeNode h).1, if_pos rfl, hn] at hgone
    cases hgone

/-- An action leaves a store that agrees with what was there exactly if it marks nothing. -/
theorem agrees_apply_iff (now : Time) (a : StoreAction) (s : Store) :
    s.Agrees (a.apply now s) ↔ s.Agrees s ∧ ∀ x, ¬ a.Marks s x := by
  cases a with
  | edit id kind change payload how =>
    rw [StoreAction.apply, agrees_modify_iff]
    simp [StoreAction.Marks]
  | link edge payload =>
    rw [StoreAction.apply, agrees_putEdge_iff]
    refine and_congr_right fun _ => ⟨fun h x hx => Bool.false_ne_true (hx.1.symm.trans h), fun h => ?_⟩
    cases hnew : s.hasEdge edge with
    | true => rfl
    | false => exact absurd ⟨hnew, Or.inl rfl⟩ (h edge.source)
  | unlink source target =>
    rcases s.removeEdge_cases now source target with ⟨he, hr⟩ | ⟨e, s', he, hr, -⟩
    · simp [StoreAction.apply, StoreAction.Marks, hr, he]
    · rw [unlink_apply hr, iff_false_left (differs_removeEdge hr)]
      exact fun h => h.2 source ⟨⟨e, he⟩, Or.inl rfl⟩
  | remove id =>
    rcases s.removeNode_cases now id with ⟨hn, hr⟩ | ⟨n, s', hn, hr, -⟩
    · simp [StoreAction.apply, StoreAction.Marks, hr, hn]
    · rw [remove_apply hr, iff_false_left (differs_removeNode hr)]
      exact fun h => h.2 id ⟨⟨n, hn⟩, Or.inl rfl⟩

end Store
end CodeGraph
