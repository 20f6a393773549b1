import Mathlib.Data.List.DropRight
/-!
The newest of a list that grows at its end. To keep as many again after an addition, no more than these need have been
kept before.
-/
namespace CodeGraph
variable {α : Type}

theorem length_rtake (xs : List α) (n : Nat) : (xs.rtake n).length = min n xs.length := by
  simp only [List.rtake, List.length_drop]
  omega

theorem rtake_suffix (xs : List α) (n : Nat) : xs.rtake n <:+ xs := List.drop_suffix ..

theorem rtake_rtake (xs : List α) (m n : Nat) : (xs.rtake m).rtake n = xs.rtake (min n m) := by
  simp only [List.rtake_eq_reverse_take_reverse, List.reverse_reverse, List.take_take]

/-- What is older than the newest `m` is not among the newest `n` of a longer list. -/
theorem rtake_rtake_append (xs ys : List α) {m n : Nat} (h : n ≤ m) :
    (xs.rtake m ++ ys).rtake n = (xs ++ ys).rtake n := by
  have hmin : min (n - ys.length) m = n - ys.length := Nat.min_eq_left (by omega)
  simp only [List.rtake_eq_reverse_take_reverse, List.reverse_append, List.reverse_reverse, List.take_append,
    List.length_reverse, List.take_take, hmin]

end CodeGraph
