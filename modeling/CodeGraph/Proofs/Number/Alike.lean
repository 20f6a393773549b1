/-!
Numbers that compare equal. Two of them are alike in every operation, unless both are zeros, which
may differ in sign.
-/
namespace CodeGraph
open Float.Model Float.Model.UnpackedFloat

/-- Numbers that no operation tells apart. -/
def Alike (x y : Float) : Prop := x.toModel.unpack = y.toModel.unpack

def IsZero (x : Float) : Prop := ∃ sign, x.toModel.unpack = .zero sign

theorem compare_eq_some_eq {a b : UnpackedFloat} (h : a.compare b = some .eq) :
    a = b ∨ (∃ s, a = .zero s) ∧ ∃ s, b = .zero s := by
  cases a with
  | notANumber => cases h
  | infinity s =>
    cases b with
    | infinity t =>
      cases s <;> cases t <;> first | exact Or.inl rfl | cases h
    | notANumber => cases h
    | zero t => cases s <;> cases h
    | finite t m e hm => cases s <;> cases h
  | zero s =>
    cases b with
    | zero t => exact Or.inr ⟨⟨s, rfl⟩, t, rfl⟩
    | notANumber => cases h
    | infinity t => cases t <;> cases h
    | finite t m e hm => cases t <;> cases h
  | finite s m e hm =>
    cases b with
    | notANumber => cases s <;> cases h
    | infinity t => cases s <;> cases t <;> cases h
    | zero t => cases s <;> cases h
    | finite t n f hn =>
      have hsign : s = t := by
        cases s <;> cases t <;> first | rfl | cases h
      subst hsign
      have hthen : (Ord.compare e f).then (Ord.compare m n) = .eq := by
        cases s with
        | positive => exact Option.some.inj h
        | negative => exact Ordering.swap_eq_eq.mp (Option.some.inj h)
      obtain ⟨he, hm'⟩ := Ordering.then_eq_eq.mp hthen
      obtain rfl := Std.compare_eq_iff_eq.mp he
      obtain rfl := Std.compare_eq_iff_eq.mp hm'
      exact Or.inl rfl

theorem alike_or_zero_of_beq {x y : Float} (h : (x == y) = true) :
    Alike x y ∨ IsZero x ∧ IsZero y := by
  have h : (x.toModel.unpack.compare y.toModel.unpack == some .eq) = true := h
  exact compare_eq_some_eq (by simpa using h)

theorem float_beq_symm {x y : Float} (h : (x == y) = true) : (y == x) = true := by
  have hcompare : (x.toModel.unpack.compare y.toModel.unpack == some .eq) = true := h
  change (y.toModel.unpack.compare x.toModel.unpack == some .eq) = true
  rcases alike_or_zero_of_beq h with halike | ⟨⟨s, hs⟩, t, ht⟩
  · rw [halike] at hcompare ⊢
    exact hcompare
  · rw [hs, ht]
    rfl

/-- Equal numbers are equal to the same numbers. -/
theorem float_beq_congr {x y : Float} (h : (x == y) = true) (z : Float) : (x == z) = (y == z) := by
  change (x.toModel.unpack.compare z.toModel.unpack == some .eq) =
    (y.toModel.unpack.compare z.toModel.unpack == some .eq)
  rcases alike_or_zero_of_beq h with halike | ⟨⟨s, hs⟩, t, ht⟩
  · rw [halike]
  · rw [hs, ht]
    cases z.toModel.unpack with
    | notANumber => rfl
    | infinity u => cases u <;> rfl
    | zero u => rfl
    | finite u m e hm => cases u <;> rfl

theorem lt_iff_compare {x y : Float} :
    x < y ↔ x.toModel.unpack.compare y.toModel.unpack = some .lt := by
  change decide (x.toModel < y.toModel) = true ↔ _
  rw [decide_eq_true_iff]
  change (x.toModel.unpack.compare y.toModel.unpack == some .lt) = true ↔ _
  rw [beq_iff_eq]

theorem not_pos_of_isZero {x : Float} (h : IsZero x) : ¬ 0 < x := by
  obtain ⟨s, hs⟩ := h
  have h₀ : (0 : Float).toModel.unpack = .zero .positive := rfl
  rw [lt_iff_compare, h₀, hs]
  intro h
  cases h

namespace Alike
variable {x x' y y' : Float}

theorem refl (x : Float) : Alike x x := rfl

theorem lt_iff (hx : Alike x x') (hy : Alike y y') : x < y ↔ x' < y' := by
  rw [lt_iff_compare, lt_iff_compare, hx, hy]

theorem div_eq (h : Alike x y) (z : Float) : x / z = y / z := by
  change Float.ofModel (Float.Model.pack (UnpackedFloat.div _ x.toModel.unpack _)) = _
  rw [h]
  rfl

theorem ite {p q : Prop} [Decidable p] [Decidable q] (h : p ↔ q) (hx : Alike x x')
    (hy : Alike y y') : Alike (if p then x else y) (if q then x' else y') := by
  by_cases hp : p
  · rwa [if_pos hp, if_pos (h.mp hp)]
  · rwa [if_neg hp, if_neg (fun hq => hp (h.mpr hq))]

end Alike

/-- A number that is positive, or the zero without a sign. -/
def IsMagnitude (x : Float) : Prop := x = 0 ∨ 0 < x

theorem IsMagnitude.alike_of_beq {x y : Float} (hx : IsMagnitude x) (hy : IsMagnitude y)
    (h : (x == y) = true) : Alike x y := by
  rcases alike_or_zero_of_beq h with h | ⟨zx, zy⟩
  · exact h
  · rw [hx.resolve_right (not_pos_of_isZero zx), hy.resolve_right (not_pos_of_isZero zy)]
    exact .refl 0

/-- The sign of a zero is lost when it is taken from one. -/
theorem one_sub_eq_of_beq {x y : Float} (h : (x == y) = true) : 1 - x = 1 - y := by
  change Float.ofModel (Float.Model.pack (UnpackedFloat.sub _ _ x.toModel.unpack)) =
    Float.ofModel (Float.Model.pack (UnpackedFloat.sub _ _ y.toModel.unpack))
  rcases alike_or_zero_of_beq h with h | ⟨⟨s, hs⟩, t, ht⟩
  · rw [h]
  · have h₁ : ∃ m e hm, (1 : Float).toModel.unpack = .finite .positive m e hm := ⟨_, _, _, rfl⟩
    obtain ⟨m, e, hm, h₁⟩ := h₁
    rw [h₁, hs, ht]
    rfl

end CodeGraph
