import CodeGraph.Proofs.Graph.Parsing
import CodeGraph.Proofs.Graph.Replacement
/-!
The names that a change brings into a graph: the ids of new nodes and the ends of new edges.
-/
namespace CodeGraph

/-- All that is new in a store are nodes and edges between ids of some kind. -/
structure Store.Adds (named : String → Prop) (s s' : Store) : Prop where
  node : ∀ id, s'.contains id = true → s.contains id = true ∨ named id
  edge : ∀ a b e, s'.edge? a b = some e → (s.edge? a b).isSome = true ∨ named a ∧ named b

namespace Store.Adds
variable {named : String → Prop} {s s' s'' : Store} {now : Time}

theorem of_lookup (hnode : ∀ x, s'.node? x = s.node? x) (hedge : ∀ a b, s'.edge? a b = s.edge? a b) :
    Adds named s s' where
  node id hid := Or.inl (by rwa [contains_eq, hnode, ← contains_eq] at hid)
  edge a b e he := Or.inl (by rw [← hedge, he, Option.isSome_some])

theorem refl (s : Store) : Adds named s s := of_lookup (fun _ => rfl) fun _ _ => rfl

theorem trans (h : Adds named s s') (h' : Adds named s' s'') : Adds named s s'' where
  node id hid := (h'.node id hid).elim (h.node id) Or.inr
  edge a b e he := by
    rcases h'.edge a b e he with hold | hnew
    · obtain ⟨e', he'⟩ := Option.isSome_iff_exists.mp hold
      exact h.edge a b e' he'
    · exact Or.inr hnew

theorem mono {named' : String → Prop} (h : Adds named s s') (hnamed : ∀ id, named id → named' id) :
    Adds named' s s' where
  node id hid := (h.node id hid).imp_right (hnamed id)
  edge a b e he := (h.edge a b e he).imp_right (And.imp (hnamed a) (hnamed b))

theorem edit {id : String} (hid : named id) (kind : String) (change : ChangeKind) (payload : Json) (f : Node → Node)
    (s : Store) : Adds named s (s.modify now id kind change payload f).1 := by
  constructor
  · intro x hx
    rw [contains_eq, node?_modify] at hx
    split at hx
    · next h => exact Or.inr (h ▸ hid)
    · exact Or.inl (by rwa [contains_eq])
  · intro a b e he
    rw [edge?_modify] at he
    exact Or.inl (he ▸ rfl)

theorem ensureNode {id : String} (hid : named id) (kind : String) (change : ChangeKind) (s : Store) :
    Adds named s (s.ensureNode now id kind change).1 := by
  unfold Store.ensureNode
  split
  · exact refl s
  · exact edit hid kind change _ _ s

/-- Where the imports of a file are replaced, new names are its own and those of its imports. -/
theorem replaced {c : DependencyChange} {reported : StringSet} (hpath : named c.path)
    (hwanted : ∀ id ∈ c.wanted, named id) (h : c.Replaced s s' reported) : Adds named s s' := by
  constructor
  · intro x hx
    rw [contains_eq] at hx
    obtain ⟨n, hn⟩ := Option.isSome_iff_exists.mp hx
    obtain ⟨m, -, hold | ⟨rfl | hmet, -⟩⟩ := h.of_node hn
    · exact Or.inl (by rw [contains_eq, hold, Option.isSome_some])
    · exact Or.inr hpath
    · exact Or.inr (hwanted x hmet)
  · intro a b e he
    rcases h.of_edge he with hold | ⟨rfl, hb, -⟩
    · exact Or.inl (hold ▸ rfl)
    · exact Or.inr ⟨hpath, hwanted b hb⟩

end Store.Adds

/-- The ids that an action may bring in are of some kind. -/
def StoreAction.Brings (named : String → Prop) : StoreAction → Prop
  | edit id _ _ _ _ => named id
  | link e _ => named e.source ∧ named e.target
  | unlink _ _ | remove _ => True

namespace Store.Adds
variable {named : String → Prop} {s : Store} {now : Time}

theorem apply {a : StoreAction} (h : a.Brings named) (s : Store) : Adds named s (a.apply now s) := by
  constructor
  · intro x hx
    rw [contains_eq] at hx
    obtain ⟨n, hn⟩ := Option.isSome_iff_exists.mp hx
    rcases node?_apply hn with hold | ⟨kind, change, payload, how, rfl, -⟩ | ⟨id, m, -, hm, -⟩
    · exact Or.inl (by rw [contains_eq, hold, Option.isSome_some])
    · exact Or.inr h
    · exact Or.inl (by rw [contains_eq, hm, Option.isSome_some])
  · intro source target e he
    rcases edge?_apply he with hold | ⟨payload, rfl, hkey⟩
    · exact Or.inl (hold ▸ rfl)
    · obtain ⟨rfl, rfl⟩ := Prod.mk.inj hkey
      exact Or.inr h

theorem perform {as : List StoreAction} (h : ∀ a ∈ as, a.Brings named) (s : Store) :
    Adds named s (s.perform now as) := by
  induction as generalizing s with
  | nil => exact refl s
  | cons a as ih =>
    obtain ⟨ha, has⟩ := List.forall_mem_cons.mp h
    exact (apply ha s).trans (ih has (a.apply now s))

end Store.Adds

namespace DependencyChange
variable {c : DependencyChange} {id : String}

theorem mem_of_wanted (h : id ∈ c.wanted) : id ∈ c.dependencies := by
  rw [wanted, Std.ExtTreeSet.mem_ofList, List.contains_iff_mem] at h
  exact (List.mem_filter.mp h).1

theorem path_or_wanted (h : id ∈ c.dependencies) : id = c.path ∨ id ∈ c.wanted := by
  by_cases hpath : id = c.path
  · exact Or.inl hpath
  · refine Or.inr ?_
    rw [wanted, Std.ExtTreeSet.mem_ofList, List.contains_iff_mem]
    exact List.mem_filter.mpr ⟨h, bne_iff_ne.mpr hpath⟩

theorem contains_apply (h : id = c.path ∨ id ∈ c.wanted) (now : Time) (payload : Json) (s : Store) :
    (c.apply now payload s).1.contains id = true := by
  rw [Store.contains_eq, (c.apply_replaced now payload s).node]
  cases s.node? id with
  | none => rw [nodeAfter_none, if_pos h, Option.isSome_some]
  | some n => rw [nodeAfter_some, Option.isSome_some]

end DependencyChange

namespace ProjectUpdate
open Store DependencyChange
variable {now : Time}

theorem contains_foldl_ensureFile {files : List String} {path : String} (h : path ∈ files) (p : Progress) :
    (files.foldl (ensureFile now) p).store.contains path = true :=
  Revised.contains_foldl Progress.store (ensureFile_revised now) h
    (fun q => contains_ensureNode (s := q.store) Node.fileKind .file) p

/-- The files that a report lists, those that import others, and what these import. -/
def paths (u : ProjectUpdate) : List String :=
  u.files ++ u.dependencies.toList.flatMap fun source => source.1 :: source.2

theorem adds_paths (u : ProjectUpdate) (now : Time) (s : Store) : s.Adds (· ∈ u.paths) (u.apply now s).1 := by
  refine apply_induction (P := fun s' => s.Adds (· ∈ u.paths) s') (.refl s) ?_ ?_
  · intro s' path hpath hgrown
    exact hgrown.trans (.ensureNode (List.mem_append_left _ hpath) _ _ s')
  · intro s' payload source hsource hgrown
    have hnamed : ∀ id ∈ source.1 :: source.2, id ∈ u.paths := fun id hid =>
      List.mem_append_right _ (List.mem_flatMap.mpr ⟨source, hsource, hid⟩)
    have hwanted : ∀ id ∈ (DependencyChange.mk source.1 source.2).wanted, id ∈ u.paths := fun id hid =>
      hnamed id (List.mem_cons_of_mem _ (mem_of_wanted hid))
    exact hgrown.trans (.replaced (hnamed _ List.mem_cons_self) hwanted (apply_replaced _ now payload s'))

theorem contains_paths (u : ProjectUpdate) (now : Time) (s : Store) {id : String} (h : id ∈ u.paths) :
    (u.apply now s).1.contains id = true := by
  have hrevised := fun p source => applySource_revised now p u.projectId source
  rcases List.mem_append.mp h with hfile | hsource
  · exact (Revised.foldl Progress.store hrevised u.dependencies.toList _).contains
      (contains_foldl_ensureFile hfile ⟨s, ∅⟩)
  · obtain ⟨source, hsource, hid⟩ := List.mem_flatMap.mp hsource
    have hhere : id = source.1 ∨ id ∈ (DependencyChange.mk source.1 source.2).wanted := by
      rcases List.mem_cons.mp hid with rfl | hid
      · exact Or.inl rfl
      · exact path_or_wanted (c := ⟨source.1, source.2⟩) hid
    exact Revised.contains_foldl Progress.store hrevised hsource
      (fun q => DependencyChange.contains_apply hhere now _ q.store) _

end ProjectUpdate
end CodeGraph
