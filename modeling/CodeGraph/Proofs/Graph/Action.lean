import CodeGraph.Batch.Run
import CodeGraph.Proofs.Graph.Edit
/-!
Everything that is done to a stored graph is a sequence of four kinds of actions: a node is edited,
an edge is put or taken away, or a node is removed. What one action keeps, every change of the graph
keeps.
-/
namespace CodeGraph

inductive StoreAction where
  | edit (id kind : String) (change : ChangeKind) (payload : Json) (how : NodeEdit)
  | link (edge : Edge) (payload : Json)
  | unlink (source target : String)
  | remove (id : String)

namespace StoreAction

/-- An action that is refused changes nothing. -/
def apply (now : Time) (a : StoreAction) (s : Store) : Store :=
  match a with
  | edit id kind change payload how => (s.modify now id kind change payload how.apply).1
  | link edge payload => (s.putEdge now edge payload).1
  | unlink source target =>
    match s.removeEdge now source target with
    | .ok (_, s) => s
    | .error _ => s
  | remove id =>
    match s.removeNode now id with
    | .ok (_, s) => s
    | .error _ => s

/-- The node that an action is to remove. -/
def removed? : StoreAction → Option String
  | remove id => some id
  | _ => none

end StoreAction

namespace Store

def perform (now : Time) (actions : List StoreAction) (s : Store) : Store :=
  actions.foldl (fun s a => a.apply now s) s

@[simp] theorem perform_nil (now : Time) (s : Store) : s.perform now [] = s := rfl

@[simp] theorem perform_cons (now : Time) (a : StoreAction) (as : List StoreAction) (s : Store) :
    s.perform now (a :: as) = (a.apply now s).perform now as := rfl

theorem perform_append (now : Time) (as bs : List StoreAction) (s : Store) :
    s.perform now (as ++ bs) = (s.perform now as).perform now bs := by
  simp [perform]

theorem contains_eq (s : Store) (id : String) : s.contains id = (s.node? id).isSome :=
  Std.ExtTreeMap.contains_eq_isSome_getElem?

/-- The removal of a node, with the store that it finds; none if there is no such node. -/
def removal (s : Store) (id : String) : List (Store × String) := if s.contains id then [(s, id)] else []

def removalBy (s : Store) (a : StoreAction) : List (Store × String) :=
  a.removed?.toList.flatMap s.removal

/-- The removals among some actions. -/
def removals (now : Time) : List StoreAction → Store → List (Store × String)
  | [], _ => []
  | a :: as, s => s.removalBy a ++ removals now as (a.apply now s)

theorem removals_eq_nil (now : Time) {as : List StoreAction} (s : Store)
    (h : ∀ a ∈ as, a.removed? = none) : removals now as s = [] := by
  induction as generalizing s with
  | nil => rfl
  | cons a as ih =>
    have has := ih (a.apply now s) fun b hb => h b (by simp [hb])
    simp [removals, removalBy, h a (by simp), has]

/-- A store after some actions none of which removes a node. -/
def Revised (now : Time) (s s' : Store) : Prop :=
  ∃ as, s' = s.perform now as ∧ ∀ a ∈ as, a.removed? = none

namespace Revised
variable {now : Time} {s s' s'' : Store}

theorem refl (s : Store) : Revised now s s := ⟨[], rfl, by simp⟩

theorem trans (h : Revised now s s') (h' : Revised now s' s'') : Revised now s s'' := by
  obtain ⟨as, rfl, has⟩ := h
  obtain ⟨bs, rfl, hbs⟩ := h'
  refine ⟨as ++ bs, (perform_append now as bs s).symm, ?_⟩
  intro a ha
  exact (List.mem_append.mp ha).elim (has a) (hbs a)

theorem apply (a : StoreAction) (h : a.removed? = none) (s : Store) : Revised now s (a.apply now s) :=
  ⟨[a], rfl, by simpa using h⟩

/-- What holds of each step of a fold over a list holds of the fold. -/
theorem foldl {α β : Type} (store : β → Store) {f : β → α → β}
    (h : ∀ b a, Revised now (store b) (store (f b a))) (xs : List α) (b : β) :
    Revised now (store b) (store (xs.foldl f b)) := by
  induction xs generalizing b with
  | nil => exact refl _
  | cons x xs ih => exact (h b x).trans (ih (f b x))

end Revised

section Operations
variable (s : Store) (now : Time) (id kind : String) (change : ChangeKind) (payload : Json)
  (f : Node → Node) (edge : Edge)

@[simp] theorem record_nodes (path : String) : (s.record now change path payload).nodes = s.nodes := rfl
@[simp] theorem record_edges (path : String) : (s.record now change path payload).edges = s.edges := rfl
@[simp] theorem record_dirty (path : String) : (s.record now change path payload).dirty = s.dirty := rfl

theorem mem_mark (x : String) : x ∈ (s.mark id).dirty ↔ x ∈ s.dirty ∨ x = id := by
  simp only [mark, Std.ExtTreeSet.mem_insert, Std.compare_eq_iff_eq]
  grind

/-- The node that an edit leaves. -/
def edited : Node := f ((s.node? id).getD (.ofId id kind))

/-- Whether an edit changes anything. -/
def editsNothing : Bool := s.node? id == some (s.edited id kind f)

theorem modify_nodes :
    (s.modify now id kind change payload f).1.nodes = s.nodes.insert id (s.edited id kind f) := by
  simp only [modify, edited]
  split <;> rfl

theorem modify_edges : (s.modify now id kind change payload f).1.edges = s.edges := by
  simp only [modify]
  split <;> rfl

theorem mem_modify_dirty (x : String) : x ∈ (s.modify now id kind change payload f).1.dirty ↔
    x ∈ s.dirty ∨ s.editsNothing id kind f = false ∧ x = id := by
  simp only [modify, editsNothing, edited]
  split
  · next h => simp [h]
  · next h => simp [h, mem_mark]

/-- Whether the edge is stored already. -/
def hasEdge : Bool := s.edges[edge.key]? == some edge

theorem putEdge_nodes : (s.putEdge now edge payload).1.nodes = s.nodes := by
  simp only [putEdge]
  split <;> rfl

theorem putEdge_edges : (s.putEdge now edge payload).1.edges =
    if s.hasEdge edge then s.edges else s.edges.insert edge.key edge := by
  simp only [putEdge, hasEdge]
  split
  · next h => simp [h]
  · next h => simp [h, mark]

theorem mem_putEdge_dirty (x : String) : x ∈ (s.putEdge now edge payload).1.dirty ↔
    x ∈ s.dirty ∨ s.hasEdge edge = false ∧ (x = edge.source ∨ x = edge.target) := by
  simp only [putEdge, hasEdge]
  split
  · next h => simp [h]
  · next h =>
    simp only [h, record_dirty, mem_mark]
    grind

theorem removeEdge_cases (source target : String) :
    (s.edge? source target = none ∧ s.removeEdge now source target = .error (.unknownEdge source target)) ∨
    ∃ e s', s.edge? source target = some e ∧ s.removeEdge now source target = .ok (e, s') ∧
      s'.nodes = s.nodes ∧ s'.edges = s.edges.erase (source, target) ∧
      ∀ x, x ∈ s'.dirty ↔ x ∈ s.dirty ∨ x = source ∨ x = target := by
  simp only [removeEdge]
  split
  · next h => exact Or.inl ⟨h, rfl⟩
  · next e h =>
    refine Or.inr ⟨e, _, h, rfl, rfl, rfl, ?_⟩
    intro x
    simp only [record_dirty, mem_mark, or_assoc]

theorem removeNode_cases :
    (s.node? id = none ∧ s.removeNode now id = .error (.unknownNode id)) ∨
    ∃ n s', s.node? id = some n ∧ s.removeNode now id = .ok (n, s') ∧
      s'.nodes = (s.nodes.erase id).map (fun _ n => n.forget id) ∧
      s'.edges = s.edges.filter (fun _ e => !e.touches id) ∧
      ∀ x, x ∈ s'.dirty ↔ x ∈ s.dirty ∨ x = id ∨
        ∃ k n, k ≠ id ∧ s.node? k = some n ∧ n.mentions id = true ∧ n.id = x := by
  simp only [removeNode]
  split
  · next h => exact Or.inl ⟨h, rfl⟩
  · next n h =>
    refine Or.inr ⟨n, _, h, rfl, rfl, rfl, ?_⟩
    intro x
    simp only [record_dirty, Std.ExtTreeSet.mem_insert, Std.ExtTreeSet.mem_insertMany_list,
      Std.compare_eq_iff_eq, List.contains_eq_mem, List.mem_map, List.mem_filter, decide_eq_true_eq,
      Std.ExtTreeMap.mem_toList_iff_getElem?_eq_some, Prod.exists, Std.ExtTreeMap.getElem?_erase]
    constructor
    · rintro (rfl | hx | ⟨k, m, ⟨hm, hid⟩, rfl⟩)
      · exact Or.inr (Or.inl rfl)
      · exact Or.inl hx
      · by_cases hk : id = k
        · simp [hk] at hm
        · rw [if_neg hk] at hm
          exact Or.inr (Or.inr ⟨k, m, Ne.symm hk, hm, hid, rfl⟩)
    · rintro (hx | rfl | ⟨k, m, hk, hm, hid, rfl⟩)
      · exact Or.inr (Or.inl hx)
      · exact Or.inl rfl
      · exact Or.inr (Or.inr ⟨k, m, ⟨by rwa [if_neg (Ne.symm hk)], hid⟩, rfl⟩)

end Operations

end Store

/-- An action notes that a node changed. It depends on nodes and edges only. -/
def StoreAction.Marks (s : Store) (x : String) : StoreAction → Prop
  | edit id kind _ _ how => s.editsNothing id kind how.apply = false ∧ x = id
  | link edge _ => s.hasEdge edge = false ∧ (x = edge.source ∨ x = edge.target)
  | unlink source target => (∃ e, s.edge? source target = some e) ∧ (x = source ∨ x = target)
  | remove id => (∃ n, s.node? id = some n) ∧
    (x = id ∨ ∃ k n, k ≠ id ∧ s.node? k = some n ∧ n.mentions id = true ∧ n.id = x)

theorem StoreAction.mem_dirty_apply (now : Time) (a : StoreAction) (s : Store) (x : String) :
    x ∈ (a.apply now s).dirty ↔ x ∈ s.dirty ∨ a.Marks s x := by
  cases a with
  | edit id kind change payload how => exact Store.mem_modify_dirty ..
  | link edge payload => exact Store.mem_putEdge_dirty ..
  | unlink source target =>
    simp only [apply, Marks]
    rcases s.removeEdge_cases now source target with ⟨he, hr⟩ | ⟨e, s', he, hr, -, -, hdirty⟩
    · simp [hr, he]
    · simp [hr, he, hdirty]
  | remove id =>
    simp only [apply, Marks]
    rcases s.removeNode_cases now id with ⟨hn, hr⟩ | ⟨n, s', hn, hr, -, -, hdirty⟩
    · simp [hr, hn]
    · simp only [hr, hn, hdirty, Option.some.injEq, exists_eq', true_and]

namespace Store

/-- Stores with the same nodes and edges. -/
structure SameItems (s t : Store) : Prop where
  nodes : t.nodes = s.nodes
  edges : t.edges = s.edges

namespace SameItems
variable {s t : Store} {now : Time}

theorem refl (s : Store) : SameItems s s := ⟨rfl, rfl⟩

theorem node? (h : SameItems s t) (x : String) : t.node? x = s.node? x := by rw [Store.node?, h.nodes, Store.node?]

theorem edge? (h : SameItems s t) (a b : String) : t.edge? a b = s.edge? a b := by
  rw [Store.edge?, h.edges, Store.edge?]

theorem contains (h : SameItems s t) (x : String) : t.contains x = s.contains x := by
  rw [Store.contains, h.nodes, Store.contains]

theorem apply (h : SameItems s t) (a : StoreAction) : SameItems (a.apply now s) (a.apply now t) := by
  cases a with
  | edit id kind change payload how =>
    have hedited : t.edited id kind how.apply = s.edited id kind how.apply := by rw [edited, h.node?, edited]
    constructor
    · simp only [StoreAction.apply, modify_nodes, h.nodes, hedited]
    · simp only [StoreAction.apply, modify_edges, h.edges]
  | link edge payload =>
    have hstored : t.hasEdge edge = s.hasEdge edge := by rw [hasEdge, h.edges, hasEdge]
    constructor
    · simp only [StoreAction.apply, putEdge_nodes, h.nodes]
    · simp only [StoreAction.apply, putEdge_edges, h.edges, hstored]
  | unlink source target =>
    simp only [StoreAction.apply, removeEdge, h.edge?]
    cases s.edge? source target with
    | none => exact h
    | some e => exact ⟨h.nodes, congrArg (·.erase (source, target)) h.edges⟩
  | remove id =>
    simp only [StoreAction.apply, removeNode, h.node?]
    cases s.node? id with
    | none => exact h
    | some n =>
      exact ⟨by simp only [record_nodes, h.nodes], by simp only [record_edges, h.edges]⟩

theorem perform (h : SameItems s t) (as : List StoreAction) : SameItems (s.perform now as) (t.perform now as) := by
  induction as generalizing s t with
  | nil => exact h
  | cons a as ih => exact ih (h.apply a)

end SameItems

/-- What is done comes to some actions that nodes and edges alone decide, and none of them removes a node. -/
def Performs {α : Type} (now : Time) (store : α → Store) (f : α → α) (a : α) : Prop :=
  ∃ as, (∀ action ∈ as, action.removed? = none) ∧
    ∀ b, SameItems (store a) (store b) → store (f b) = (store b).perform now as

namespace Performs
variable {α β : Type} {now : Time} {store : α → Store} {f g : α → α} {a : α}

theorem nothing (h : ∀ b, SameItems (store a) (store b) → store (f b) = store b) : Performs now store f a :=
  ⟨[], by simp, h⟩

theorem one (action : StoreAction) (hkept : action.removed? = none)
    (h : ∀ b, SameItems (store a) (store b) → store (f b) = action.apply now (store b)) : Performs now store f a :=
  ⟨[action], by simpa using hkept, h⟩

/-- More actions may follow those that are performed already. -/
theorem andThen (hf : Performs now store f a) (more : List StoreAction) (hkept : ∀ action ∈ more, action.removed? = none)
    (h : ∀ b, SameItems (store (f a)) (store (f b)) → store (g b) = (store (f b)).perform now more) :
    Performs now store g a := by
  obtain ⟨as, has, hf⟩ := hf
  refine ⟨as ++ more, fun action h => (List.mem_append.mp h).elim (has action) (hkept action), fun b hb => ?_⟩
  have hsame : SameItems (store (f a)) (store (f b)) := by
    rw [hf a (.refl _), hf b hb]
    exact hb.perform as
  rw [h b hsame, hf b hb, perform_append]

theorem comp (hf : Performs now store f a) (hg : Performs now store g (f a)) :
    Performs now store (fun b => g (f b)) a := by
  obtain ⟨as, has, hg⟩ := hg
  exact hf.andThen as has fun b hb => hg (f b) hb

theorem foldl {f : α → β → α} (h : ∀ a x, Performs now store (fun b => f b x) a) (xs : List β) (a : α) :
    Performs now store (fun b => xs.foldl f b) a := by
  induction xs generalizing a with
  | nil => exact nothing fun _ _ => rfl
  | cons x xs ih => exact comp (h a x) (ih (f a x))

theorem revised (h : Performs now store f a) : Revised now (store a) (store (f a)) := by
  obtain ⟨as, has, hf⟩ := h
  exact ⟨as, hf a (.refl _), has⟩

end Performs

end Store
end CodeGraph
