import CodeGraph.Proofs.Graph.Changes
/-!
What is found in a stored graph after one of its operations, node by node and edge by edge.
-/
namespace CodeGraph.Store

section Lookup
variable (s : Store) (now : Time) (id kind : String) (change : ChangeKind) (payload : Json) (f : Node → Node)
  (edge : Edge) (x source target : String)

theorem node?_modify : (s.modify now id kind change payload f).1.node? x =
    if id = x then some (s.edited id kind f) else s.node? x := by
  simp only [node?, modify_nodes, Std.ExtTreeMap.getElem?_insert, Std.compare_eq_iff_eq]

theorem edge?_modify : (s.modify now id kind change payload f).1.edge? source target = s.edge? source target := by
  simp only [edge?, modify_edges]

theorem node?_putEdge : (s.putEdge now edge payload).1.node? x = s.node? x := by
  simp only [node?, putEdge_nodes]

theorem edge?_putEdge : (s.putEdge now edge payload).1.edge? source target =
    if s.hasEdge edge = false ∧ edge.key = (source, target) then some edge else s.edge? source target := by
  simp only [edge?, putEdge_edges]
  cases s.hasEdge edge with
  | true => simp only [if_true, Bool.true_eq_false, false_and, if_false]
  | false =>
    simp only [Bool.false_eq_true, if_false, true_and, Std.ExtTreeMap.getElem?_insert, Std.compare_eq_iff_eq]

end Lookup

section Removal
variable {s s' : Store} {now : Time} {id : String} {n : Node} {source target : String} {e : Edge}

theorem lookup_removeEdge (h : s.removeEdge now source target = .ok (e, s')) :
    (∀ x, s'.node? x = s.node? x) ∧
      ∀ a b, s'.edge? a b = if (source, target) = (a, b) then none else s.edge? a b := by
  rcases s.removeEdge_cases now source target with ⟨-, hr⟩ | ⟨e', s'', -, hr, hn, he, -⟩
  · rw [hr] at h
    cases h
  · rw [hr] at h
    cases h
    simp only [node?, edge?, hn, he, Std.ExtTreeMap.getElem?_erase, Std.compare_eq_iff_eq, implies_true, and_self]

theorem lookup_removeNode (h : s.removeNode now id = .ok (n, s')) :
    (∀ x, s'.node? x = if id = x then none else (s.node? x).map (·.forget id)) ∧
      ∀ a b, s'.edge? a b = (s.edge? a b).filter (!·.touches id) := by
  rcases s.removeNode_cases now id with ⟨-, hr⟩ | ⟨n', s'', -, hr, hn, he, -⟩
  · rw [hr] at h
    cases h
  · rw [hr] at h
    cases h
    constructor
    · intro x
      simp only [node?, hn, Std.ExtTreeMap.getElem?_map, Std.ExtTreeMap.getElem?_erase, Std.compare_eq_iff_eq]
      split <;> rfl
    · intro a b
      simp only [edge?, he, Std.ExtTreeMap.getElem?_filter']

/-- A node that is left by the removal of another one was there before and has only forgotten that one. -/
theorem node?_left (h : s.removeNode now id = .ok (n, s')) {x : String} {m : Node} (hm : s'.node? x = some m) :
    id ≠ x ∧ ∃ m₀, s.node? x = some m₀ ∧ m = m₀.forget id := by
  rw [(lookup_removeNode h).1] at hm
  split at hm
  · cases hm
  · next hx =>
    obtain ⟨m₀, hm₀, rfl⟩ := Option.map_eq_some_iff.mp hm
    exact ⟨hx, m₀, hm₀, rfl⟩

end Removal

section Stays
variable (s : Store) (now : Time)

theorem unlink_cases (source target : String) : (StoreAction.unlink source target).apply now s = s ∨
    ∃ e s', s.removeEdge now source target = .ok (e, s') ∧ (StoreAction.unlink source target).apply now s = s' := by
  rcases s.removeEdge_cases now source target with ⟨-, hr⟩ | ⟨e, s', -, hr, -⟩
  · exact Or.inl (by simp only [StoreAction.apply, hr])
  · exact Or.inr ⟨e, s', hr, unlink_apply hr⟩

theorem remove_cases (id : String) :
    (s.contains id = false ∧ (StoreAction.remove id).apply now s = s) ∨
    ∃ n s', s.contains id = true ∧ s.removeNode now id = .ok (n, s') ∧ (StoreAction.remove id).apply now s = s' := by
  rcases s.removeNode_cases now id with ⟨hn, hr⟩ | ⟨n, s', hn, hr, -⟩
  · exact Or.inl ⟨by rw [contains_eq, hn, Option.isSome_none], by simp only [StoreAction.apply, hr]⟩
  · exact Or.inr ⟨n, s', by rw [contains_eq, hn, Option.isSome_some], hr, remove_apply hr⟩

variable {s now} {x : String}

/-- A node that stands after an action stood there before, was edited by it, or has forgotten the node that was
removed. -/
theorem node?_apply {a : StoreAction} {n : Node} (h : (a.apply now s).node? x = some n) : s.node? x = some n ∨
    (∃ kind change payload how, a = .edit x kind change payload how ∧ n = s.edited x kind how.apply) ∨
    ∃ id m, a = .remove id ∧ s.node? x = some m ∧ n = m.forget id := by
  cases a with
  | edit id kind change payload how =>
    simp only [StoreAction.apply, node?_modify] at h
    split at h
    · next hx =>
      subst hx
      exact Or.inr (Or.inl ⟨kind, change, payload, how, rfl, (Option.some.inj h).symm⟩)
    · exact Or.inl h
  | link edge payload =>
    simp only [StoreAction.apply, node?_putEdge] at h
    exact Or.inl h
  | unlink source target =>
    rcases s.unlink_cases now source target with hsame | ⟨e, s', hr, hleft⟩
    · exact Or.inl (by rwa [hsame] at h)
    · exact Or.inl (by rwa [hleft, (lookup_removeEdge hr).1] at h)
  | remove id =>
    rcases s.remove_cases now id with ⟨-, hsame⟩ | ⟨gone, s', -, hr, hleft⟩
    · exact Or.inl (by rwa [hsame] at h)
    · rw [hleft] at h
      obtain ⟨-, m, hm, rfl⟩ := node?_left hr h
      exact Or.inr (Or.inr ⟨id, m, rfl, hm, rfl⟩)

/-- An edge that stands after an action stood there before or was put there by it. -/
theorem edge?_apply {a : StoreAction} {source target : String} {e : Edge}
    (h : (a.apply now s).edge? source target = some e) :
    s.edge? source target = some e ∨ ∃ payload, a = .link e payload ∧ e.key = (source, target) := by
  cases a with
  | edit id kind change payload how =>
    simp only [StoreAction.apply, edge?_modify] at h
    exact Or.inl h
  | link edge payload =>
    simp only [StoreAction.apply, edge?_putEdge] at h
    split at h
    · next hnew =>
      cases h
      exact Or.inr ⟨payload, rfl, hnew.2⟩
    · exact Or.inl h
  | unlink a b =>
    rcases s.unlink_cases now a b with hsame | ⟨gone, s', hr, hleft⟩
    · exact Or.inl (by rwa [hsame] at h)
    · rw [hleft, (lookup_removeEdge hr).2] at h
      split at h
      · cases h
      · exact Or.inl h
  | remove id =>
    rcases s.remove_cases now id with ⟨-, hsame⟩ | ⟨gone, s', -, hr, hleft⟩
    · exact Or.inl (by rwa [hsame] at h)
    · rw [hleft, (lookup_removeNode hr).2] at h
      exact Or.inl (Option.filter_eq_some_iff.mp h).1

/-- A node stays unless it is removed. -/
theorem contains_apply {a : StoreAction} (h : s.contains x = true) (hx : x ∉ (s.removalBy a).map (·.2)) :
    (a.apply now s).contains x = true := by
  cases a with
  | edit id kind change payload how =>
    rw [contains_eq] at h ⊢
    simp only [StoreAction.apply, node?_modify]
    split
    · rfl
    · exact h
  | link edge payload =>
    rw [contains_eq] at h ⊢
    simpa only [StoreAction.apply, node?_putEdge] using h
  | unlink source target =>
    rcases s.unlink_cases now source target with hsame | ⟨e, s', hr, hleft⟩
    · rwa [hsame]
    · rwa [hleft, contains_eq, (lookup_removeEdge hr).1, ← contains_eq]
  | remove id =>
    rcases s.remove_cases now id with ⟨-, hsame⟩ | ⟨n, s', hid, hr, hleft⟩
    · rwa [hsame]
    · have hne : id ≠ x := by
        rintro rfl
        simp [removalBy, StoreAction.removed?, removal, hid] at hx
      rwa [hleft, contains_eq, (lookup_removeNode hr).1, if_neg hne, Option.isSome_map, ← contains_eq]

theorem contains_perform (as : List StoreAction) (h : s.contains x = true)
    (hx : x ∉ (removals now as s).map (·.2)) : (s.perform now as).contains x = true := by
  induction as generalizing s with
  | nil => exact h
  | cons a as ih =>
    rw [removals, List.map_append, List.mem_append, not_or] at hx
    exact ih (contains_apply h hx.1) hx.2

theorem Revised.contains {s' : Store} (h : Revised now s s') (hx : s.contains x = true) : s'.contains x = true := by
  obtain ⟨actions, rfl, hkept⟩ := h
  exact contains_perform actions hx (by simp [removals_eq_nil now s hkept])

/-- What one step of a fold puts in is there at the end. -/
theorem Revised.contains_foldl {α β : Type} (store : β → Store) {f : β → α → β} {a : α} {as : List α}
    (h : ∀ b a, Revised now (store b) (store (f b a))) (ha : a ∈ as) (hput : ∀ b, (store (f b a)).contains x = true)
    (b : β) : (store (as.foldl f b)).contains x = true := by
  induction as generalizing b with
  | nil => cases ha
  | cons first rest ih =>
    rcases List.mem_cons.mp ha with rfl | hrest
    · exact (Revised.foldl store h rest (f b a)).contains (hput b)
    · exact ih hrest (f b first)

theorem contains_ensureNode (kind : String) (change : ChangeKind) :
    (s.ensureNode now x kind change).1.contains x = true := by
  unfold ensureNode
  split
  · next h => exact h
  · rw [contains_eq, node?_modify, if_pos rfl, Option.isSome_some]

end Stays
end CodeGraph.Store
