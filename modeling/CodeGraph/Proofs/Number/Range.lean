import CodeGraph.Graph.Metrics
import CodeGraph.Proofs.Number.Alike
/-!
The order of finite numbers is total, so a number that is not below a bound is at least the bound. A
metric that is set is finite and in its range, whatever number was given.
-/
namespace CodeGraph
open Float.Model Float.Model.UnpackedFloat

theorem le_iff_compare {x y : Float} : x ≤ y ↔ (x.toModel.unpack.compare y.toModel.unpack).any (·.isLE) = true := by
  change decide (x.toModel ≤ y.toModel) = true ↔ _
  rw [decide_eq_true_iff]
  exact Iff.rfl

/-- Numbers of one sign are ordered by exponent, then by mantissa. -/
theorem isLE_of_not_lt {e f : Int} {m n : Nat} :
    ((compare e f).then (compare m n) ≠ .lt → ((compare f e).then (compare n m)).isLE = true) ∧
      (((compare e f).then (compare m n)).swap ≠ .lt → ((compare f e).then (compare n m)).swap.isLE = true) := by
  have hexponents : compare f e = (compare e f).swap := Std.OrientedCmp.eq_swap
  have hmantissas : compare n m = (compare m n).swap := Std.OrientedCmp.eq_swap
  rw [hexponents, hmantissas, ← Ordering.swap_then]
  cases (compare e f).then (compare m n) <;> simp

theorem compare_isLE_of_not_lt {a b : UnpackedFloat} (ha : a.isFinite = true) (hb : b.isFinite = true)
    (h : a.compare b ≠ some .lt) : (b.compare a).any (·.isLE) = true := by
  cases a with
  | notANumber => cases ha
  | infinity s => cases ha
  | zero s =>
    cases b with
    | notANumber => cases hb
    | infinity t => cases hb
    | zero t => rfl
    | finite t n f hn =>
      cases t with
      | negative => rfl
      | positive => exact absurd rfl h
  | finite s m e hm =>
    cases b with
    | notANumber => cases hb
    | infinity t => cases hb
    | zero t =>
      cases s with
      | negative => exact absurd rfl h
      | positive => rfl
    | finite t n f hn =>
      cases s with
      | negative =>
        cases t with
        | negative => exact isLE_of_not_lt.2 fun hlt => h (congrArg some hlt)
        | positive => exact absurd rfl h
      | positive =>
        cases t with
        | negative => rfl
        | positive => exact isLE_of_not_lt.1 fun hlt => h (congrArg some hlt)

theorem float_le_of_not_lt {x y : Float} (hx : x.isFinite = true) (hy : y.isFinite = true) (h : ¬ x < y) : y ≤ x := by
  rw [lt_iff_compare] at h
  exact le_iff_compare.mpr (compare_isLE_of_not_lt hx hy h)

theorem float_le_of_lt {x y : Float} (h : x < y) : x ≤ y := by
  rw [le_iff_compare, lt_iff_compare.mp h]
  rfl

theorem clampUnit_range (x : Float) : (clampUnit x).isFinite = true ∧ 0 ≤ clampUnit x ∧ clampUnit x ≤ 1 := by
  unfold clampUnit
  split
  · decide
  · next hfinite =>
    have hx : x.isFinite = true := by simpa using hfinite
    split
    · decide
    · next hzero =>
      split
      · decide
      · next hone => exact ⟨hx, float_le_of_not_lt hx rfl hzero, float_le_of_not_lt rfl hx hone⟩

theorem clampMagnitude_range (x : Float) : (clampMagnitude x).isFinite = true ∧ 0 ≤ clampMagnitude x := by
  unfold clampMagnitude
  split
  · decide
  · next hfinite =>
    have hx : x.isFinite = true := by simpa using hfinite
    split
    · next hpos => exact ⟨hx, float_le_of_lt hpos⟩
    · decide

theorem clampUnit_clampUnit (x : Float) : clampUnit (clampUnit x) = clampUnit x := by
  have hvalue : clampUnit x = 0 ∨ clampUnit x = 1 ∨ clampUnit x = x := by
    unfold clampUnit
    repeat' split
    · exact Or.inl rfl
    · exact Or.inl rfl
    · exact Or.inr (Or.inl rfl)
    · exact Or.inr (Or.inr rfl)
  rcases hvalue with hzero | hone | hself
  · rw [hzero]
    decide
  · rw [hone]
    decide
  · rw [hself, hself]

theorem clampMagnitude_clampMagnitude (x : Float) : clampMagnitude (clampMagnitude x) = clampMagnitude x := by
  have hvalue : clampMagnitude x = 0 ∨ clampMagnitude x = x := by
    unfold clampMagnitude
    repeat' split
    · exact Or.inl rfl
    · exact Or.inr rfl
    · exact Or.inl rfl
  rcases hvalue with hzero | hself
  · rw [hzero]
    decide
  · rw [hself, hself]

namespace Metrics

/-- Every metric is finite and not negative, and a ratio is at most one. -/
def Bounded (m : Metrics) : Prop :=
  ∀ k : Metric, (m.get k).isFinite = true ∧ 0 ≤ m.get k ∧ (k.isRatio = true → m.get k ≤ 1)

theorem default_bounded : ({} : Metrics).Bounded := by
  intro k
  cases k <;> decide

theorem clamp_range (k : Metric) (x : Float) :
    (k.clamp x).isFinite = true ∧ 0 ≤ k.clamp x ∧ (k.isRatio = true → k.clamp x ≤ 1) := by
  unfold Metric.clamp
  split
  · obtain ⟨hfinite, hzero, hone⟩ := clampUnit_range x
    exact ⟨hfinite, hzero, fun _ => hone⟩
  · next hratio =>
    obtain ⟨hfinite, hzero⟩ := clampMagnitude_range x
    exact ⟨hfinite, hzero, fun h => absurd h hratio⟩

/-- A value in the range of a metric is left as it is. -/
theorem clamp_clamp (k : Metric) (x : Float) : k.clamp (k.clamp x) = k.clamp x := by
  unfold Metric.clamp
  split
  · exact clampUnit_clampUnit x
  · exact clampMagnitude_clampMagnitude x

theorem setAll_bounded {m : Metrics} (h : m.Bounded) (values : List (Metric × Float)) :
    (m.setAll values).Bounded :=
  setAll_keeps (P := fun k x => x.isFinite = true ∧ 0 ≤ x ∧ (k.isRatio = true → x ≤ 1)) clamp_range h values

end Metrics
end CodeGraph
