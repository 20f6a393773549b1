import CodeGraph.Proofs.Graph.Edit
/-!
How the store finds out whether a node differs after an edit. The comparison is that of floats, for which a
number that is none differs from itself; in everything else it is equality.
-/
namespace CodeGraph

theorem float_beq_self {x : Float} (h : x.isFinite = true) : (x == x) = true := by
  have hfinite : x.toModel.unpack.isFinite = true := h
  change (x.toModel.unpack.compare x.toModel.unpack == some .eq) = true
  cases hx : x.toModel.unpack with
  | notANumber => rw [hx] at hfinite; cases hfinite
  | infinity s => rw [hx] at hfinite; cases hfinite
  | zero s => rfl
  | finite s m e hm =>
    have hsame : (compare e e).then (compare m m) = .eq := by
      rw [Std.compare_self, Std.compare_self]
      rfl
    cases s with
    | positive =>
      change (some ((compare e e).then (compare m m)) == some .eq) = true
      rw [hsame]
      rfl
    | negative =>
      change (some ((compare e e).then (compare m m)).swap == some .eq) = true
      rw [hsame]
      rfl

instance : LawfulBEq Relationships where
  eq_of_beq := Node.relationships_eq_of_beq
  rfl {r} := by
    cases r
    change instBEqRelationships.beq _ _ = true
    simp [instBEqRelationships.beq]

instance : LawfulBEq Annotations where
  eq_of_beq {a b} h := by
    cases a
    cases b
    change instBEqAnnotations.beq _ _ = true at h
    simp only [instBEqAnnotations.beq, Bool.and_eq_true, beq_iff_eq] at h
    simpa using h
  rfl {a} := by
    cases a
    change instBEqAnnotations.beq _ _ = true
    simp [instBEqAnnotations.beq]

namespace Metrics

/-- No metric is infinite, and none is no number. -/
def Finite (m : Metrics) : Prop := ∀ k : Metric, (m.get k).isFinite = true

theorem default_finite : ({} : Metrics).Finite := by
  intro k
  cases k <;> decide

theorem Finite.beq_self {m : Metrics} (h : m.Finite) : (m == m) = true := by
  have hget : ∀ k : Metric, (m.get k == m.get k) = true := fun k => float_beq_self (h k)
  cases m
  change instBEqMetrics.beq _ _ = true
  simp only [instBEqMetrics.beq, Bool.and_eq_true]
  exact ⟨hget .complexity, hget .lines, hget .coverage, hget .maintainability, hget .cognitiveComplexity,
    hget .cyclomaticComplexity, hget .halsteadVolume, hget .halsteadDifficulty, hget .halsteadEffort⟩

end Metrics

namespace Node
variable {n n' : Node} {o o' : Option Node}

theorem beq_iff : (n == n') = true ↔ (n.metrics == n'.metrics) = true ∧ { n with metrics := n'.metrics } = n' := by
  cases n
  cases n'
  change instBEqNode.beq _ _ = true ↔ _
  simp only [instBEqNode.beq, Bool.and_eq_true, beq_iff_eq, Node.mk.injEq]
  grind

theorem beq_self_iff : (n == n) = true ↔ (n.metrics == n.metrics) = true := by
  rw [beq_iff, and_iff_left rfl]

/-- The metrics in a place of the store; those of a new node where there is none. -/
def metricsAt (o : Option Node) : Metrics := (o.map Node.metrics).getD {}

theorem beq_at_self_iff : (o == o) = true ↔ (metricsAt o == metricsAt o) = true := by
  cases o with
  | none => exact iff_of_true rfl Metrics.default_finite.beq_self
  | some n => exact beq_self_iff

theorem beq_at_self_congr (h : metricsAt o' = metricsAt o) : (o' == o') = (o == o) := by
  rw [Bool.eq_iff_iff, beq_at_self_iff, beq_at_self_iff, h]

/-- Where the metrics stay, a place is found unchanged if it is equal and its metrics are numbers. -/
theorem beq_at_iff (h : metricsAt o' = metricsAt o) : (o == o') = true ↔ (o == o) = true ∧ o' = o := by
  cases o with
  | none =>
    cases o' with
    | none => exact iff_of_true rfl ⟨rfl, rfl⟩
    | some n' => exact iff_of_false Bool.false_ne_true fun hsame => nomatch hsame.2
  | some n =>
    cases o' with
    | none => exact iff_of_false Bool.false_ne_true fun hsame => nomatch hsame.2
    | some n' =>
      have hmetrics : n'.metrics = n.metrics := h
      change (n == n') = true ↔ (n == n) = true ∧ _
      rw [beq_iff, beq_self_iff, hmetrics, Option.some.injEq]
      exact and_congr_right fun _ => eq_comm

theorem differs_at_iff (h : metricsAt o' = metricsAt o) : (o == o') = false ↔ o' ≠ o ∨ (o == o) = false := by
  rw [← Bool.not_eq_true, beq_at_iff h, Classical.not_and_iff_not_or_not, Bool.not_eq_true, or_comm]

end Node
end CodeGraph
