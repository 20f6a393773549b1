import CodeGraph.Proofs.Graph.Replacement
/-!
Replacements of the imports of different files commute: each writes its own edges, its own sets and its own id
among the users of other nodes. So a list of them may be applied in any order.
-/
namespace CodeGraph

namespace Store

/-- The same nodes, edges and marks; the histories may differ. -/
structure SameGraph (s s' : Store) : Prop where
  nodes : s'.nodes = s.nodes
  edges : s'.edges = s.edges
  dirty : s'.dirty = s.dirty

namespace SameGraph
variable {s s' s'' : Store}

theorem refl (s : Store) : s.SameGraph s := ⟨rfl, rfl, rfl⟩

theorem trans (h : s.SameGraph s') (h' : s'.SameGraph s'') : s.SameGraph s'' :=
  ⟨h'.nodes.trans h.nodes, h'.edges.trans h.edges, h'.dirty.trans h.dirty⟩

theorem of_lookup (hnode : ∀ x, s'.node? x = s.node? x) (hedge : ∀ a b, s'.edge? a b = s.edge? a b)
    (hdirty : ∀ x, x ∈ s'.dirty ↔ x ∈ s.dirty) : s.SameGraph s' :=
  ⟨Std.ExtTreeMap.ext_getElem? hnode, Std.ExtTreeMap.ext_getElem? fun k => hedge k.1 k.2,
    Std.ExtTreeSet.ext_mem hdirty⟩

theorem node? (h : s.SameGraph s') (x : String) : s'.node? x = s.node? x := by
  rw [Store.node?, h.nodes, Store.node?]

theorem edge? (h : s.SameGraph s') (a b : String) : s'.edge? a b = s.edge? a b := by
  rw [Store.edge?, h.edges, Store.edge?]

end SameGraph
end Store

namespace DependencyChange
open Store
variable {c d : DependencyChange} {previous previous' : StringSet} {x : String} {n : Node} {o : Option Node}
  {s s' t t' : Store} {reported reported' : StringSet}

/-- The outcome depends on nothing but the graph. -/
theorem Replaced.congr (h : c.Replaced s t reported) (h' : c.Replaced s' t' reported') (hs : s.SameGraph s') :
    t.SameGraph t' := by
  have himports : s'.importsOf c.path = s.importsOf c.path := by rw [importsOf, hs.node?, importsOf]
  have hnode : ∀ x, t'.node? x = t.node? x := by
    intro x
    rw [h'.node, h.node, himports, hs.node?]
  have hedge : ∀ a b, t'.edge? a b = t.edge? a b := by
    intro a b
    rw [h'.edge, h.edge, himports, hs.edge?]
  refine .of_lookup hnode hedge fun x => ?_
  rw [h'.dirty, h.dirty, h'.changed, h.changed, hs.dirty, himports]
  simp only [hnode, hs.node?, hedge, hs.edge?]

theorem usersAfter_comm (hpath : c.path ≠ d.path) (ids : StringSet) :
    d.usersAfter previous' x (c.usersAfter previous x ids) =
      c.usersAfter previous x (d.usersAfter previous' x ids) := by
  apply Std.ExtTreeSet.ext_mem
  intro y
  unfold usersAfter
  grind

theorem rewrite_comm (hpath : c.path ≠ d.path) :
    d.rewrite previous' x (c.rewrite previous x n) = c.rewrite previous x (d.rewrite previous' x n) := by
  have husers : ∀ ids, d.usersAfter previous' x (c.usersAfter previous x ids) =
      c.usersAfter previous x (d.usersAfter previous' x ids) := usersAfter_comm hpath
  by_cases hc : x = c.path
  · have hd : x ≠ d.path := fun hx => hpath (hc.symm.trans hx)
    simp only [rewrite, if_pos hc, if_neg hd, setImports, husers]
  · by_cases hd : x = d.path
    · simp only [rewrite, if_neg hc, if_pos hd, setImports, husers]
    · simp only [rewrite, if_neg hc, if_neg hd, husers]

/-- A node that another change creates has no user to drop. -/
theorem rewrite_fresh (h : ¬ (x = c.path ∨ x ∈ c.wanted)) : c.rewrite previous x (.forPath x) = .forPath x := by
  rw [not_or] at h
  have herase : (∅ : StringSet).erase c.path = ∅ := Node.erase_eq_self Std.ExtTreeSet.contains_empty
  simp only [rewrite, usersAfter, if_neg h.1, if_neg h.2, Node.forPath, Node.ofId, herase, ite_self]

theorem nodeAfter_comm (hpath : c.path ≠ d.path) :
    d.nodeAfter previous' x (c.nodeAfter previous x o) = c.nodeAfter previous x (d.nodeAfter previous' x o) := by
  have hcomm : ∀ n, d.rewrite previous' x (c.rewrite previous x n) = c.rewrite previous x (d.rewrite previous' x n) :=
    fun _ => rewrite_comm hpath
  cases o with
  | some n => rw [nodeAfter_some, nodeAfter_some, nodeAfter_some, nodeAfter_some, hcomm]
  | none =>
    rw [nodeAfter_none, nodeAfter_none]
    by_cases hc : x = c.path ∨ x ∈ c.wanted
    · by_cases hd : x = d.path ∨ x ∈ d.wanted
      · rw [if_pos hc, if_pos hd, nodeAfter_some, nodeAfter_some, hcomm]
      · rw [if_pos hc, if_neg hd, nodeAfter_some, nodeAfter_none, if_pos hc, hcomm, rewrite_fresh hd]
    · by_cases hd : x = d.path ∨ x ∈ d.wanted
      · rw [if_neg hc, if_pos hd, nodeAfter_some, nodeAfter_none, if_pos hd, ← hcomm, rewrite_fresh hc]
      · rw [if_neg hc, if_neg hd, nodeAfter_none, nodeAfter_none, if_neg hc, if_neg hd]

theorem metricsAt_nodeAfter : Node.metricsAt (c.nodeAfter previous x o) = Node.metricsAt o := by
  cases o with
  | some n =>
    rw [nodeAfter_some]
    exact rewrite_metrics n
  | none =>
    rw [nodeAfter_none]
    split
    · exact rewrite_metrics (.forPath x)
    · rfl

namespace Replaced

/-- A node is reported if it is another one afterwards, or is met with a metric that is no number. -/
theorem mem_changed (h : c.Replaced s t reported) : x ∈ reported ↔
    c.nodeAfter (s.importsOf c.path) x (s.node? x) ≠ s.node? x ∨
      c.Meets (s.importsOf c.path) x ∧ (s.node? x == s.node? x) = false := by
  rw [h.changed, h.node, Node.differs_at_iff metricsAt_nodeAfter, and_or_left]
  refine or_congr_left (and_iff_right_of_imp fun hne => ?_)
  exact Classical.not_not.mp fun hother => hne (nodeAfter_other hother _)

theorem importsOf_other (h : c.Replaced s t reported) {path : String} (hpath : path ≠ c.path) :
    t.importsOf path = s.importsOf path := by
  unfold importsOf
  rw [h.node]
  cases s.node? path with
  | some n =>
    rw [nodeAfter_some]
    exact rewrite_imports hpath n
  | none =>
    rw [nodeAfter_none]
    split
    · next n hn =>
      split at hn
      · cases hn
        exact rewrite_imports hpath (.forPath path)
      · cases hn
    · rfl

/-- Replacements for two files may be made in either order. -/
theorem comm {s₁ s₂ s₁₂ s₂₁ : Store} {r₁ r₂ r₁₂ r₂₁ : StringSet} (hpath : c.path ≠ d.path) (h₁ : c.Replaced s s₁ r₁)
    (h₁₂ : d.Replaced s₁ s₁₂ r₁₂) (h₂ : d.Replaced s s₂ r₂) (h₂₁ : c.Replaced s₂ s₂₁ r₂₁) : s₁₂.SameGraph s₂₁ := by
  have hd : s₁.importsOf d.path = s.importsOf d.path := h₁.importsOf_other hpath.symm
  have hc : s₂.importsOf c.path = s.importsOf c.path := h₂.importsOf_other hpath
  have hnode : ∀ x, s₂₁.node? x = s₁₂.node? x := by
    intro x
    rw [h₂₁.node, h₂.node, h₁₂.node, h₁.node, hc, hd, nodeAfter_comm hpath]
  have hedge : ∀ a b, s₂₁.edge? a b = s₁₂.edge? a b := by
    intro a b
    rw [h₂₁.edge, h₂.edge, h₁₂.edge, h₁.edge, hc, hd]
    grind
  refine .of_lookup hnode hedge fun x => ?_
  have hchanged : x ∈ r₁ ∨ x ∈ r₁₂ ↔ x ∈ r₂ ∨ x ∈ r₂₁ := by
    have hcomm : d.nodeAfter (s.importsOf d.path) x (c.nodeAfter (s.importsOf c.path) x (s.node? x)) =
        c.nodeAfter (s.importsOf c.path) x (d.nodeAfter (s.importsOf d.path) x (s.node? x)) := nodeAfter_comm hpath
    rw [h₁.mem_changed, h₁₂.mem_changed, h₂.mem_changed, h₂₁.mem_changed, h₁.node, h₂.node,
      Node.beq_at_self_congr metricsAt_nodeAfter, Node.beq_at_self_congr metricsAt_nodeAfter, hc, hd]
    grind
  have hedgesc : ∀ b, s₂₁.edge? c.path b ≠ s₂.edge? c.path b ↔ s₁.edge? c.path b ≠ s.edge? c.path b := by
    intro b
    rw [h₂₁.edge, if_pos rfl, hc, h₂.edge, if_neg hpath, h₁.edge, if_pos rfl]
  have hedgesd : ∀ b, s₁₂.edge? d.path b ≠ s₁.edge? d.path b ↔ s₂.edge? d.path b ≠ s.edge? d.path b := by
    intro b
    rw [h₁₂.edge, if_pos rfl, hd, h₁.edge, if_neg hpath.symm, h₂.edge, if_pos rfl]
  rw [h₂₁.dirty, h₂.dirty, h₁₂.dirty, h₁.dirty]
  simp only [hedgesc, hedgesd]
  grind

end Replaced
end DependencyChange

namespace Store
open DependencyChange

/-- The changes of imports, each at its time and with the payload that it came in. -/
def rewired (s : Store) (changes : List (Time × DependencyChange × Json)) : Store :=
  changes.foldl (fun s c => (c.2.1.apply c.1 c.2.2 s).1) s

theorem rewired_cons (s : Store) (c : Time × DependencyChange × Json) (rest : List (Time × DependencyChange × Json)) :
    s.rewired (c :: rest) = (c.2.1.apply c.1 c.2.2 s).1.rewired rest := rfl

/-- The graph does not depend on when the changes are made and what they came in. -/
theorem rewired_congr {s s' : Store} {changes changes' : List (Time × DependencyChange × Json)} (hs : s.SameGraph s')
    (h : changes.map (·.2.1) = changes'.map (·.2.1)) : (s.rewired changes).SameGraph (s'.rewired changes') := by
  induction changes generalizing s s' changes' with
  | nil =>
    rw [List.map_nil, eq_comm, List.map_eq_nil_iff] at h
    rwa [h]
  | cons c rest ih =>
    cases changes' with
    | nil => cases h
    | cons c' rest' =>
      rw [List.map_cons, List.map_cons, List.cons.injEq] at h
      obtain ⟨hfirst, hrest⟩ := h
      have hc := c.2.1.apply_replaced c.1 c.2.2 s
      have hc' := c'.2.1.apply_replaced c'.1 c'.2.2 s'
      rw [← hfirst] at hc'
      rw [rewired_cons, rewired_cons, ← hfirst]
      exact ih (hc.congr hc' hs) hrest

theorem rewired_perm {changes changes' : List (Time × DependencyChange × Json)} (h : changes.Perm changes')
    (hpaths : (changes.map (·.2.1.path)).Nodup) (s : Store) : (s.rewired changes).SameGraph (s.rewired changes') := by
  induction h generalizing s with
  | nil => exact .refl _
  | cons c _ ih => exact ih (List.nodup_cons.mp hpaths).2 (c.2.1.apply c.1 c.2.2 s).1
  | swap c d rest =>
    have hne : d.2.1.path ≠ c.2.1.path := by
      simp only [List.map_cons, List.nodup_cons, List.mem_cons, not_or] at hpaths
      exact hpaths.1.1
    rw [rewired_cons, rewired_cons, rewired_cons, rewired_cons]
    refine rewired_congr ?_ rfl
    exact Replaced.comm hne (apply_replaced ..) (apply_replaced ..) (apply_replaced ..) (apply_replaced ..)
  | trans hfirst _ ih ih' => exact (ih hpaths s).trans (ih' ((hfirst.map _).nodup_iff.mp hpaths) s)

/-- Changes of the imports of different files may be made in any order, whatever they have in common and whatever
the store: only the history tells the order. -/
theorem rewired_in_any_order (s : Store) {changes changes' : List (Time × DependencyChange × Json)}
    (hpaths : (changes.map (·.2.1.path)).Nodup) (hsame : (changes.map (·.2.1)).Perm (changes'.map (·.2.1))) :
    (s.rewired changes).SameGraph (s.rewired changes') := by
  let plain (c : DependencyChange) : Time × DependencyChange × Json := (default, c, .null)
  have hfirst : (s.rewired changes).SameGraph (s.rewired ((changes.map (·.2.1)).map plain)) :=
    rewired_congr (.refl s) (by simp [plain])
  have hlast : (s.rewired ((changes'.map (·.2.1)).map plain)).SameGraph (s.rewired changes') :=
    rewired_congr (.refl s) (by simp [plain])
  have hperm := rewired_perm (hsame.map plain) (by simpa [plain, Function.comp_def] using hpaths) s
  exact (hfirst.trans hperm).trans hlast

/-- A file that lists an import which is not stored. -/
def orphaned : Store :=
  { nodes := .ofList [("main", { Node.forPath "main" with relationships := { imports := .ofList ["db"] } })] }

/-- One change drops what the next one creates, which imports the first file again. -/
def crossing : List (Time × DependencyChange × Json) :=
  let now : Time := ⟨⟨2024, 1, 1⟩, 43200, 0⟩
  [(now, ⟨"main", ["log"]⟩, .null), (now, ⟨"util", ["db", "main"]⟩, .null), (now, ⟨"db", ["main", "log"]⟩, .null)]

theorem crossing_in_any_order :
    (crossing.map (·.2.1.path)).Nodup ∧
    (orphaned.rewired crossing).SameGraph (orphaned.rewired crossing.reverse) ∧
    (orphaned.rewired crossing).edges.keys =
      [("db", "log"), ("db", "main"), ("main", "log"), ("util", "db"), ("util", "main")] ∧
    (orphaned.rewired crossing).history.map (·.path) ≠ (orphaned.rewired crossing.reverse).history.map (·.path) := by
  have hpaths : (crossing.map (·.2.1.path)).Nodup := by decide
  exact ⟨hpaths, rewired_in_any_order orphaned hpaths (crossing.reverse_perm.symm.map _), by decide +kernel,
    by decide +kernel⟩

end Store
end CodeGraph
