import CodeGraph.Proofs.Graph.Lookup
import CodeGraph.Proofs.Graph.WellFormed
/-!
What a file imports is told four times: by the file's own sets, by the users that the imported files
list, by its dependencies and by the edges. While its imports are replaced these differ, and here is what
each operation of the store does to each of them.
-/
namespace CodeGraph
open Node (ofId)

namespace Store

/-- A node lists another one among its imports. -/
def Imports (s : Store) (a b : String) : Prop := ∃ n, s.node? a = some n ∧ b ∈ n.relationships.imports

/-- A node is listed by another one among its users. -/
def UsedBy (s : Store) (a b : String) : Prop := ∃ n, s.node? b = some n ∧ a ∈ n.relationships.usedBy

def Joins (s : Store) (a b : String) : Prop := ∃ e, s.edge? a b = some e

end Store

/-- A node that gives the same set for what it depends on, imports and uses. -/
def Node.Even (n : Node) : Prop :=
  n.dependencies = n.relationships.imports ∧ n.relationships.uses = n.relationships.imports

namespace Store

/-- What the nodes list as imports and as users, and what the edges join. While the imports of a file
are replaced the three differ. -/
structure Links (s : Store) (listed users joined : String → String → Prop) : Prop where
  imports : ∀ a b, s.Imports a b ↔ listed a b
  usedBy : ∀ a b, s.UsedBy a b ↔ users a b
  joins : ∀ a b, s.Joins a b ↔ joined a b
  kind : ∀ {a b e}, s.edge? a b = some e → e.kind = Edge.importKind
  even : ∀ {a n}, s.node? a = some n → n.Even

/-- All agree, and no node imports itself. -/
def Linked (s : Store) : Prop := ∃ links, s.Links links links links ∧ ∀ a, ¬ links a a

/-- The node of an id, or the one that would be created. -/
def nodeOr (s : Store) (id kind : String) : Node := (s.node? id).getD (ofId id kind)

section Nodes
variable (s : Store) (a b kind : String)

theorem imports_iff : s.Imports a b ↔ b ∈ (s.nodeOr a kind).relationships.imports := by
  unfold Imports nodeOr
  cases s.node? a with
  | none => simp [ofId]
  | some n => simp

theorem usedBy_iff : s.UsedBy a b ↔ a ∈ (s.nodeOr b kind).relationships.usedBy := by
  unfold UsedBy nodeOr
  cases s.node? b with
  | none => simp [ofId]
  | some n => simp

end Nodes

namespace Links
variable {s : Store} {now : Time} {id kind path target : String} {change : ChangeKind} {payload : Json}
  {f : Node → Node} {listed users joined : String → String → Prop}

theorem nodeOr_even (h : s.Links listed users joined) (id kind : String) : (s.nodeOr id kind).Even := by
  unfold nodeOr
  cases hn : s.node? id with
  | none => exact ⟨rfl, rfl⟩
  | some n => exact h.even hn

theorem congr {listed' users' joined' : String → String → Prop} (h : s.Links listed users joined)
    (hl : ∀ a b, listed' a b ↔ listed a b) (hu : ∀ a b, users' a b ↔ users a b)
    (hj : ∀ a b, joined' a b ↔ joined a b) : s.Links listed' users' joined' where
  imports a b := (h.imports a b).trans (hl a b).symm
  usedBy a b := (h.usedBy a b).trans (hu a b).symm
  joins a b := (h.joins a b).trans (hj a b).symm
  kind := h.kind
  even := h.even

/-- An edit of a node changes what this node lists, and leaves it even if it was. -/
theorem modify (h : s.Links listed users joined) {listed' users' : String → String → Prop}
    (hl : ∀ a b, listed' a b ↔ if id = a then b ∈ (f (s.nodeOr id kind)).relationships.imports else listed a b)
    (hu : ∀ a b, users' a b ↔ if id = b then a ∈ (f (s.nodeOr id kind)).relationships.usedBy else users a b)
    (heven : (f (s.nodeOr id kind)).Even) :
    (s.modify now id kind change payload f).1.Links listed' users' joined := by
  have hnode : ∀ x, (s.modify now id kind change payload f).1.node? x =
      if id = x then some (f (s.nodeOr id kind)) else s.node? x := s.node?_modify now id kind change payload f
  constructor
  · intro a b
    rw [hl, ← h.imports, Imports, hnode]
    by_cases ha : id = a
    · simp [ha]
    · simp only [ha, if_false]
      exact Iff.rfl
  · intro a b
    rw [hu, ← h.usedBy, UsedBy, hnode]
    by_cases hb : id = b
    · simp [hb]
    · simp only [hb, if_false]
      exact Iff.rfl
  · intro a b
    rw [← h.joins, Joins, edge?_modify]
    exact Iff.rfl
  · intro a b e he
    rw [edge?_modify] at he
    exact h.kind he
  · intro a n hn
    rw [hnode] at hn
    split at hn
    · rw [← Option.some.inj hn]
      exact heven
    · exact h.even hn

/-- An edit that leaves the imports of a node. -/
theorem modifyUsers (h : s.Links listed users joined) {users' : String → String → Prop}
    (hi : ∀ n, (f n).relationships.imports = n.relationships.imports) (heven : ∀ n, n.Even → (f n).Even)
    (hu : ∀ a b, users' a b ↔ if id = b then a ∈ (f (s.nodeOr id kind)).relationships.usedBy else users a b) :
    (s.modify now id kind change payload f).1.Links listed users' joined := by
  refine h.modify ?_ hu (heven _ (h.nodeOr_even id kind))
  intro a b
  rw [hi, ← imports_iff, h.imports]
  split
  · next ha => rw [ha]
  · exact Iff.rfl

/-- An edit that is about neither relationships nor dependencies. -/
theorem edit (h : s.Links listed users joined) (hr : ∀ n, (f n).relationships = n.relationships)
    (hd : ∀ n, (f n).dependencies = n.dependencies) :
    (s.modify now id kind change payload f).1.Links listed users joined := by
  refine h.modifyUsers (fun n => by rw [hr]) ?_ ?_
  · intro n hn
    rwa [Node.Even, hr, hd]
  · intro a b
    rw [hr, ← usedBy_iff, h.usedBy]
    split
    · next hb => rw [hb]
    · exact Iff.rfl

section Replacing
open DependencyChange

theorem setImports (h : s.Links listed users joined) (ids : StringSet) :
    (s.modify now path kind change payload (setImports ids)).1.Links
      (fun a b => if path = a then b ∈ ids else listed a b) users joined := by
  refine h.modify (fun a b => Iff.rfl) ?_ ⟨rfl, rfl⟩
  intro a b
  have hsame : a ∈ (DependencyChange.setImports ids (s.nodeOr path kind)).relationships.usedBy ↔ s.UsedBy a path :=
    (s.usedBy_iff a path kind).symm
  rw [hsame, h.usedBy]
  split
  · next hb => rw [hb]
  · exact Iff.rfl

theorem addUser (h : s.Links listed users joined) :
    (s.modify now target kind change payload (addUser path)).1.Links
      listed (fun a b => users a b ∨ a = path ∧ b = target) joined := by
  refine h.modifyUsers (fun _ => rfl) (fun _ hn => hn) ?_
  intro a b
  rw [DependencyChange.addUser, Std.ExtTreeSet.mem_insert, Std.compare_eq_iff_eq, ← usedBy_iff, h.usedBy]
  by_cases hb : target = b
  · subst hb
    simp [eq_comm, or_comm]
  · simp [hb, Ne.symm hb]

theorem dropUser (h : s.Links listed users joined) :
    (s.modify now target kind change payload (dropUser path)).1.Links
      listed (fun a b => users a b ∧ ¬ (a = path ∧ b = target)) joined := by
  refine h.modifyUsers (fun _ => rfl) (fun _ hn => hn) ?_
  intro a b
  rw [DependencyChange.dropUser, Std.ExtTreeSet.mem_erase, ← usedBy_iff, h.usedBy, Ne, Std.compare_eq_iff_eq]
  by_cases hb : target = b
  · subst hb
    simp [eq_comm, and_comm]
  · simp [hb, Ne.symm hb]

/-- An edge for an import, where there was none. -/
theorem putEdge (h : s.Links listed users joined) (hnone : s.edge? path target = none) :
    (s.putEdge now (Edge.ofEnds path target Edge.importKind) payload).1.Links
      listed users (fun a b => joined a b ∨ a = path ∧ b = target) := by
  have hfresh : s.hasEdge (Edge.ofEnds path target Edge.importKind) = false := by
    rw [hasEdge]
    change (s.edge? path target == _) = false
    rw [hnone]
    rfl
  have hedge : ∀ a b, (s.putEdge now (Edge.ofEnds path target Edge.importKind) payload).1.edge? a b =
      if a = path ∧ b = target then some (Edge.ofEnds path target Edge.importKind) else s.edge? a b := by
    intro a b
    rw [edge?_putEdge, hfresh]
    simp only [Edge.key, Edge.ofEnds, Prod.mk.injEq, true_and, eq_comm (a := a), eq_comm (a := b)]
  constructor
  · intro a b
    rw [← h.imports, Imports, node?_putEdge]
    exact Iff.rfl
  · intro a b
    rw [← h.usedBy, UsedBy, node?_putEdge]
    exact Iff.rfl
  · intro a b
    rw [← h.joins, Joins, hedge]
    split
    · next hab => simp [hab]
    · next hab => simp [hab, Joins]
  · intro a b e he
    rw [hedge] at he
    split at he
    · rw [← Option.some.inj he]
      rfl
    · exact h.kind he
  · intro a n hn
    rw [node?_putEdge] at hn
    exact h.even hn

theorem removeEdge (h : s.Links listed users joined) {s' : Store} {e : Edge}
    (hr : s.removeEdge now path target = .ok (e, s')) :
    s'.Links listed users (fun a b => joined a b ∧ ¬ (a = path ∧ b = target)) := by
  obtain ⟨hnode, hedge⟩ := lookup_removeEdge hr
  constructor
  · intro a b
    rw [← h.imports, Imports, hnode]
    exact Iff.rfl
  · intro a b
    rw [← h.usedBy, UsedBy, hnode]
    exact Iff.rfl
  · intro a b
    rw [← h.joins, Joins, hedge]
    by_cases hab : a = path ∧ b = target
    · simp [hab]
    · have hne : ¬ (path, target) = (a, b) := fun heq => hab ⟨(Prod.mk.inj heq).1.symm, (Prod.mk.inj heq).2.symm⟩
      simp only [hne, if_false, hab, not_false_eq_true, and_true]
      exact Iff.rfl
  · intro a b e he
    rw [hedge] at he
    split at he
    · cases he
    · exact h.kind he
  · intro a n hn
    rw [hnode] at hn
    exact h.even hn

end Replacing

/-- Of what a node lists, only the removed node is lost. -/
theorem mem_left_iff (set : Node → StringSet) (hset : ∀ m : Node, set (m.forget id) = (set m).erase id) {s' : Store}
    {n : Node} (hr : s.removeNode now id = .ok (n, s')) {a b : String} :
    (∃ m, s'.node? a = some m ∧ b ∈ set m) ↔ (∃ m, s.node? a = some m ∧ b ∈ set m) ∧ ¬ (a = id ∨ b = id) := by
  have hmem : ∀ m, b ∈ set (m.forget id) ↔ id ≠ b ∧ b ∈ set m := by
    intro m
    rw [hset, Std.ExtTreeSet.mem_erase, Ne, Std.compare_eq_iff_eq]
  constructor
  · rintro ⟨m, hm, hb⟩
    obtain ⟨ha, m₀, hm₀, rfl⟩ := node?_left hr hm
    obtain ⟨hne, hb⟩ := (hmem m₀).mp hb
    exact ⟨⟨m₀, hm₀, hb⟩, fun hid => hid.elim (Ne.symm ha) (Ne.symm hne)⟩
  · rintro ⟨⟨m, hm, hb⟩, hid⟩
    rw [not_or] at hid
    refine ⟨m.forget id, ?_, (hmem m).mpr ⟨Ne.symm hid.2, hb⟩⟩
    rw [(lookup_removeNode hr).1, if_neg (Ne.symm hid.1), hm]
    rfl

/-- The removal of a node takes everything along that is about it. -/
theorem removeNode (h : s.Links listed users joined) (hw : s.WellFormed) {s' : Store} {n : Node}
    (hr : s.removeNode now id = .ok (n, s')) :
    s'.Links (fun a b => listed a b ∧ ¬ (a = id ∨ b = id)) (fun a b => users a b ∧ ¬ (a = id ∨ b = id))
      (fun a b => joined a b ∧ ¬ (a = id ∨ b = id)) := by
  have hedge := (lookup_removeNode hr).2
  constructor
  · intro a b
    rw [← h.imports]
    exact mem_left_iff (·.relationships.imports) (fun _ => rfl) hr
  · intro a b
    rw [← h.usedBy, or_comm]
    exact mem_left_iff (·.relationships.usedBy) (fun _ => rfl) hr
  · intro a b
    rw [← h.joins, Joins, hedge]
    simp only [Option.filter_eq_some_iff, Joins]
    constructor
    · rintro ⟨e, he, ht⟩
      have hkey : e.key = (a, b) := hw.edge_key he
      obtain ⟨rfl, rfl⟩ := Prod.mk.inj hkey
      exact ⟨⟨e, he⟩, by simpa [Edge.touches] using ht⟩
    · rintro ⟨⟨e, he⟩, hid⟩
      have hkey : e.key = (a, b) := hw.edge_key he
      obtain ⟨rfl, rfl⟩ := Prod.mk.inj hkey
      exact ⟨e, he, by simpa [Edge.touches] using hid⟩
  · intro a b e he
    rw [hedge] at he
    exact h.kind (Option.filter_eq_some_iff.mp he).1
  · intro a m hm
    obtain ⟨-, m₀, hm₀, rfl⟩ := node?_left hr hm
    obtain ⟨hd, hu⟩ := h.even hm₀
    exact ⟨congrArg (·.erase id) hd, congrArg (·.erase id) hu⟩

end Links
end Store
end CodeGraph
