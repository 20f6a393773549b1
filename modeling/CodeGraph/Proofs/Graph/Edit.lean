import CodeGraph.Update.Analysis
import CodeGraph.Engine.Derived
import CodeGraph.Proofs.Number.Alike
/-!
The ways in which a stored node is edited. None of them changes its id, and all of them leave its
magnitudes in their range.
-/
namespace CodeGraph

namespace Metrics

/-- All metrics that are no ratios are magnitudes. -/
def InRange (m : Metrics) : Prop := ∀ k : Metric, k.isRatio = false → IsMagnitude (m.get k)

theorem clampMagnitude_isMagnitude (x : Float) : IsMagnitude (clampMagnitude x) := by
  unfold clampMagnitude
  split
  · exact Or.inl rfl
  · split
    · next h => exact Or.inr h
    · exact Or.inl rfl

theorem default_inRange : ({} : Metrics).InRange := by
  intro k _
  cases k <;> exact Or.inl rfl

theorem clamp_isMagnitude (k : Metric) (x : Float) (h : k.isRatio = false) : IsMagnitude (k.clamp x) := by
  simp only [Metric.clamp, h]
  exact clampMagnitude_isMagnitude x

theorem setAll_inRange {m : Metrics} (h : m.InRange) (values : List (Metric × Float)) :
    (m.setAll values).InRange :=
  setAll_keeps (P := fun k x => k.isRatio = false → IsMagnitude x) clamp_isMagnitude h values

theorem beq_get {m m' : Metrics} (h : (m == m') = true) (k : Metric) : (m.get k == m'.get k) = true := by
  cases m
  cases m'
  change instBEqMetrics.beq _ _ = true at h
  simp only [instBEqMetrics.beq, Bool.and_eq_true] at h
  obtain ⟨h₁, h₂, h₃, h₄, h₅, h₆, h₇, h₈, h₉⟩ := h
  cases k <;> assumption

/-- The risk does not see the sign of a zero. -/
theorem risk_eq_of_beq {m m' : Metrics} (hm : m.InRange) (hm' : m'.InRange) (h : (m == m') = true)
    (dependents : Nat) : m.risk dependents = m'.risk dependents := by
  have hc : Alike m.complexity m'.complexity :=
    (hm .complexity rfl).alike_of_beq (hm' .complexity rfl) (beq_get h .complexity)
  have hy : Alike m.cyclomaticComplexity m'.cyclomaticComplexity :=
    (hm .cyclomaticComplexity rfl).alike_of_beq (hm' .cyclomaticComplexity rfl)
      (beq_get h .cyclomaticComplexity)
  have hmost := Alike.ite (hy.lt_iff hc) hc hy
  have hcov : 1 - m.coverage = 1 - m'.coverage := one_sub_eq_of_beq (beq_get h .coverage)
  have hmain : 1 - m.maintainability = 1 - m'.maintainability :=
    one_sub_eq_of_beq (beq_get h .maintainability)
  simp only [risk, hcov, hmain, hmost.div_eq 20]

end Metrics

/-- What is done to a node once it is there. -/
inductive NodeEdit where
  | create
  | patch (p : NodePatch)
  | imports (ids : StringSet)
  | addUser (id : String)
  | dropUser (id : String)
  | update (u : AnalysisUpdate)
  | result (r : AnalyzerResult)

def NodeEdit.apply : NodeEdit → Node → Node
  | create, n => n
  | patch p, n => p.apply n
  | imports ids, n => DependencyChange.setImports ids n
  | addUser id, n => DependencyChange.addUser id n
  | dropUser id, n => DependencyChange.dropUser id n
  | update u, n => { n with analysis := u.merge n.analysis }
  | result r, n => r.merge n

namespace NodeEdit

@[simp] theorem apply_id (edit : NodeEdit) (n : Node) : (edit.apply n).id = n.id := by
  cases edit <;> rfl

/-- An edit does nothing to the metrics but to set some of them. -/
theorem metrics_apply (edit : NodeEdit) (n : Node) :
    ∃ values, (edit.apply n).metrics = n.metrics.setAll values := by
  cases edit with
  | patch p => exact ⟨p.metrics, rfl⟩
  | result r => exact ⟨r.metrics, rfl⟩
  | _ => exact ⟨[], rfl⟩

theorem apply_inRange (edit : NodeEdit) {n : Node} (h : n.metrics.InRange) :
    (edit.apply n).metrics.InRange := by
  obtain ⟨values, hvalues⟩ := edit.metrics_apply n
  rw [hvalues]
  exact Metrics.setAll_inRange h values

end NodeEdit

/-- Nodes from which the same numbers are derived. -/
structure Node.SameFigures (n n' : Node) : Prop where
  id : n'.id = n.id
  dependencies : n'.dependencies = n.dependencies
  relationships : n'.relationships = n.relationships
  risk : ∀ dependents, n'.metrics.risk dependents = n.metrics.risk dependents

namespace Node

theorem SameFigures.refl (n : Node) : n.SameFigures n := ⟨rfl, rfl, rfl, fun _ => rfl⟩

theorem SameFigures.trans {a b c : Node} (h : a.SameFigures b) (h' : b.SameFigures c) :
    a.SameFigures c where
  id := h'.id.trans h.id
  dependencies := h'.dependencies.trans h.dependencies
  relationships := h'.relationships.trans h.relationships
  risk d := (h'.risk d).trans (h.risk d)

theorem relationships_eq_of_beq {r r' : Relationships} (h : (r == r') = true) : r = r' := by
  cases r
  cases r'
  change instBEqRelationships.beq _ _ = true at h
  simp only [instBEqRelationships.beq, Bool.and_eq_true, beq_iff_eq] at h
  obtain ⟨h₁, h₂, h₃, h₄, h₅, h₆⟩ := h
  subst h₁ h₂ h₃ h₄ h₅ h₆
  rfl

/-- Nodes that compare equal may differ in the sign of a zero, but not in what is derived from
them. -/
theorem sameFigures_of_beq {n n' : Node} (hn : n.metrics.InRange) (hn' : n'.metrics.InRange)
    (h : (n == n') = true) : n.SameFigures n' := by
  have hf : n.id = n'.id ∧ n.dependencies = n'.dependencies ∧ (n.metrics == n'.metrics) = true ∧
      (n.relationships == n'.relationships) = true := by
    cases n
    cases n'
    change instBEqNode.beq _ _ = true at h
    simp only [instBEqNode.beq, Bool.and_eq_true, beq_iff_eq] at h
    obtain ⟨h₁, -, -, -, h₅, h₆, h₇, -⟩ := h
    exact ⟨h₁, h₅, h₆, h₇⟩
  obtain ⟨hid, hdep, hmet, hrel⟩ := hf
  exact ⟨hid.symm, hdep.symm, (relationships_eq_of_beq hrel).symm,
    fun d => (Metrics.risk_eq_of_beq hn hn' hmet d).symm⟩

theorem erase_eq_self {s : StringSet} {x : String} (h : s.contains x = false) : s.erase x = s := by
  apply Std.ExtTreeSet.ext_mem
  intro y
  rw [Std.ExtTreeSet.mem_erase]
  constructor
  · exact fun hy => hy.2
  · intro hy
    refine ⟨?_, hy⟩
    intro hxy
    rw [Std.compare_eq_iff_eq] at hxy
    subst hxy
    simp [← Std.ExtTreeSet.contains_iff_mem, h] at hy

theorem forget_eq_self {n : Node} {id : String} (h : n.mentions id = false) : n.forget id = n := by
  simp only [mentions, Relationships.mentions, Relation.all, List.any_cons, List.any_nil,
    Bool.or_eq_false_iff, Relationships.get] at h
  obtain ⟨⟨h₁, h₂, h₃, h₄, h₅, h₆, -⟩, h₇⟩ := h
  simp only [forget, Relationships.forget, erase_eq_self, h₁, h₂, h₃, h₄, h₅, h₆, h₇]

end Node
end CodeGraph
