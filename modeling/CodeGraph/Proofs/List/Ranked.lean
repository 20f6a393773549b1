import Mathlib
/-!
Lists that are sorted by ranks. Where no two members have the same rank, the order is strict and does not depend on how
the members were listed before.
-/
namespace CodeGraph
variable {α β : Type} [LinearOrder β] (f : α → β) {l l' : List α} {x y : α}

/-- A comparison that goes by ranks sorts as the ranks do. -/
theorem mergeSort_eq_of_rank {before : α → α → Bool} (h : ∀ x ∈ l, ∀ y ∈ l, before x y = decide (f x ≤ f y)) :
    l.mergeSort before = l.mergeSort fun x y => f x ≤ f y := by
  simpa using List.map_mergeSort (f := id) (l := l) h

theorem pairwise_mergeSort_le (l : List α) : (l.mergeSort fun a b => f a ≤ f b).Pairwise fun a b => f a ≤ f b := by
  have htrans : ∀ a b c, decide (f a ≤ f b) = true → decide (f b ≤ f c) = true → decide (f a ≤ f c) = true := by
    simpa only [decide_eq_true_iff] using fun a b c hab hbc => le_trans hab hbc
  have htotal : ∀ a b, (decide (f a ≤ f b) || decide (f b ≤ f a)) = true := by
    simpa using fun a b => le_total (f a) (f b)
  simpa using List.pairwise_mergeSort htrans htotal l

/-- The least of a list is the head once the list is sorted, so it is what goes if one does. -/
theorem mem_drop_one_mergeSort (hnodup : l.Nodup) (hinj : ∀ y ∈ l, f x = f y → x = y) (hx : x ∈ l) :
    x ∈ (l.mergeSort fun a b => f a ≤ f b).drop 1 ↔ ∃ y ∈ l, f y < f x := by
  have hsorted := pairwise_mergeSort_le f l
  have hperm := List.mergeSort_perm l fun a b => decide (f a ≤ f b)
  generalize l.mergeSort (fun a b => decide (f a ≤ f b)) = sorted at hsorted hperm ⊢
  cases sorted with
  | nil => exact absurd (hperm.mem_iff.mpr hx) List.not_mem_nil
  | cons least rest =>
    obtain ⟨hleast, -⟩ := List.pairwise_cons.mp hsorted
    have hnew := (List.nodup_cons.mp (hperm.nodup_iff.mpr hnodup)).1
    have hheld := hperm.mem_iff.mp (List.mem_cons_self (a := least) (l := rest))
    rw [List.drop_one, List.tail_cons]
    constructor
    · intro hrest
      have hne : f x ≠ f least := fun heq => hnew (hinj least hheld heq ▸ hrest)
      exact ⟨least, hheld, lt_of_le_of_ne (hleast x hrest) hne.symm⟩
    · rintro ⟨y, hy, hlt⟩
      rcases List.mem_cons.mp (hperm.mem_iff.mpr hx) with rfl | hrest
      · rcases List.mem_cons.mp (hperm.mem_iff.mpr hy) with rfl | hy
        · exact absurd hlt (lt_irrefl _)
        · exact absurd (hleast y hy) (not_le_of_gt hlt)
      · exact hrest

theorem pairwise_mergeSort_lt (hnodup : l.Nodup) (hinj : ∀ x ∈ l, ∀ y ∈ l, f x = f y → x = y) :
    (l.mergeSort fun a b => f a ≤ f b).Pairwise fun a b => f a < f b := by
  have hperm := List.mergeSort_perm l fun a b => decide (f a ≤ f b)
  have hapart : (l.mergeSort fun a b => f a ≤ f b).Pairwise (· ≠ ·) := hperm.nodup_iff.mpr hnodup
  refine ((pairwise_mergeSort_le f l).and hapart).imp_of_mem fun hx hy ⟨hle, hne⟩ => ?_
  exact lt_of_le_of_ne hle fun heq => hne (hinj _ (hperm.mem_iff.mp hx) _ (hperm.mem_iff.mp hy) heq)

/-- Once a list without ties is sorted, all that stands before a cut is less than all that stands behind it. -/
theorem lt_of_mem_take_drop (hnodup : l.Nodup) (hinj : ∀ x ∈ l, ∀ y ∈ l, f x = f y → x = y) {n : Nat}
    (hx : x ∈ (l.mergeSort fun a b => f a ≤ f b).take n) (hy : y ∈ (l.mergeSort fun a b => f a ≤ f b).drop n) :
    f x < f y := by
  have hsorted := pairwise_mergeSort_lt f hnodup hinj
  rw [← List.take_append_drop n (l.mergeSort _), List.pairwise_append] at hsorted
  exact hsorted.2.2 x hx y hy

theorem mergeSort_eq_of_perm (h : l.Perm l') (hinj : ∀ x ∈ l, ∀ y ∈ l, f x = f y → x = y) :
    (l.mergeSort fun a b => f a ≤ f b) = l'.mergeSort fun a b => f a ≤ f b := by
  have hperm := List.mergeSort_perm l fun a b => decide (f a ≤ f b)
  have hperm' := List.mergeSort_perm l' fun a b => decide (f a ≤ f b)
  refine List.Perm.eq_of_pairwise ?_ (pairwise_mergeSort_le f l) (pairwise_mergeSort_le f l')
    (hperm.trans (h.trans hperm'.symm))
  intro a b ha hb hab hba
  exact hinj a (hperm.mem_iff.mp ha) b (h.mem_iff.mpr (hperm'.mem_iff.mp hb)) (le_antisymm hab hba)

end CodeGraph
