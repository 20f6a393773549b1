import CodeGraph.Proofs.Graph.Comparison
import CodeGraph.Proofs.Graph.Imports
/-!
What is left of a graph when the imports of a file have been replaced: every node, every edge, and which ids are
reported and marked. Each place is told from what stood there before.
-/
namespace CodeGraph

/-- What a file imports; nothing if it is not stored. -/
def Store.importsOf (s : Store) (path : String) : StringSet :=
  match s.node? path with
  | some n => n.relationships.imports
  | none => ∅

theorem Store.modify_snd (s : Store) (now : Time) (id kind : String) (change : ChangeKind) (payload : Json)
    (f : Node → Node) : (s.modify now id kind change payload f).2 = !s.editsNothing id kind f := by
  simp only [modify, editsNothing, edited]
  split
  · next h => rw [h]; rfl
  · next h => rw [Bool.not_eq_true] at h; rw [h]; rfl

namespace DependencyChange
variable {now : Time} {path : String} {payload : Json} {p p' p'' : Progress} {ids ids' : List String}
  {onNode : String → Option Node → Option Node} {onEdge : String → Option Edge → Option Edge}

/-- Some ids are visited, each once: their nodes and the edges to them from the path are changed. A node that
differs is reported and marked, and both ends of an edge that differs are marked. -/
structure Progress.Visits (path : String) (ids : List String) (onNode : String → Option Node → Option Node)
    (onEdge : String → Option Edge → Option Edge) (p p' : Progress) : Prop where
  node : ∀ x, p'.store.node? x = if x ∈ ids then onNode x (p.store.node? x) else p.store.node? x
  edge : ∀ a b, p'.store.edge? a b = if a = path ∧ b ∈ ids then onEdge b (p.store.edge? a b) else p.store.edge? a b
  changed : ∀ x, x ∈ p'.changed ↔ x ∈ p.changed ∨ x ∈ ids ∧ (p.store.node? x == p'.store.node? x) = false
  dirty : ∀ x, x ∈ p'.store.dirty ↔ x ∈ p.store.dirty ∨
    (x ∈ ids ∧ (p.store.node? x == p'.store.node? x) = false) ∨
    ∃ b ∈ ids, p'.store.edge? path b ≠ p.store.edge? path b ∧ (x = path ∨ x = b)

namespace Progress.Visits

theorem append (h : Visits path ids onNode onEdge p p') (h' : Visits path ids' onNode onEdge p' p'')
    (hdisjoint : ∀ x ∈ ids, x ∉ ids') : Visits path (ids ++ ids') onNode onEdge p p'' := by
  have hfirst : ∀ x ∈ ids, p''.store.node? x = p'.store.node? x := fun x hx => by
    rw [h'.node, if_neg (hdisjoint x hx)]
  have hlast : ∀ x ∈ ids', p'.store.node? x = p.store.node? x := fun x hx => by
    rw [h.node, if_neg fun hx' => hdisjoint x hx' hx]
  have hnodes : ∀ x, (x ∈ ids ∧ (p.store.node? x == p'.store.node? x) = false) ∨
      (x ∈ ids' ∧ (p'.store.node? x == p''.store.node? x) = false) ↔
      x ∈ ids ++ ids' ∧ (p.store.node? x == p''.store.node? x) = false := by
    intro x
    rw [List.mem_append, or_and_right]
    exact or_congr (and_congr_right fun hx => by rw [hfirst x hx]) (and_congr_right fun hx => by rw [hlast x hx])
  have hedges : ∀ b, (b ∈ ids ∧ p'.store.edge? path b ≠ p.store.edge? path b) ∨
      (b ∈ ids' ∧ p''.store.edge? path b ≠ p'.store.edge? path b) ↔
      b ∈ ids ++ ids' ∧ p''.store.edge? path b ≠ p.store.edge? path b := by
    intro b
    rw [List.mem_append, or_and_right]
    refine or_congr (and_congr_right fun hb => ?_) (and_congr_right fun hb => ?_)
    · rw [h'.edge, if_neg fun hb' => hdisjoint b hb hb'.2]
    · rw [h.edge, if_neg fun hb' => hdisjoint b hb'.2 hb]
  constructor
  · intro x
    rw [h'.node, h.node]
    grind
  · intro a b
    rw [h'.edge, h.edge]
    grind
  · intro x
    rw [h'.changed, h.changed, or_assoc, hnodes]
  · intro x
    rw [h'.dirty, h.dirty]
    grind

/-- Ids that are visited one after the other, no one twice. -/
theorem foldl {f : Progress → String → Progress} (h : ∀ p id, Visits path [id] onNode onEdge p (f p id))
    (hids : ids.Nodup) (p : Progress) : Visits path ids onNode onEdge p (ids.foldl f p) := by
  induction ids generalizing p with
  | nil => constructor <;> simp
  | cons id rest ih =>
    obtain ⟨hid, hrest⟩ := List.nodup_cons.mp hids
    refine append (h p id) (ih hrest (f p id)) fun x hx => ?_
    rwa [List.mem_singleton.mp hx]

end Progress.Visits

/-- An edit reports and marks its node where that differs. -/
theorem modify_visits (now : Time) (path id : String) (payload : Json) (f : Node → Node) (p : Progress) :
    Progress.Visits path [id] (fun x o => some (f (o.getD (.forPath x)))) (fun _ o => o) p
      (p.modify now id payload f) := by
  have hnode : ∀ x, (p.modify now id payload f).store.node? x =
      if id = x then some (f ((p.store.node? id).getD (.forPath id))) else p.store.node? x :=
    p.store.node?_modify now id Node.fileKind .dependency payload f
  have hedge : ∀ a b, (p.modify now id payload f).store.edge? a b = p.store.edge? a b :=
    p.store.edge?_modify now id Node.fileKind .dependency payload f
  have hnothing : p.store.editsNothing id Node.fileKind f =
      (p.store.node? id == (p.modify now id payload f).store.node? id) := by
    rw [hnode, if_pos rfl]
    rfl
  constructor
  · intro x
    rw [hnode]
    by_cases hx : id = x
    · simp [hx]
    · simp [hx, Ne.symm hx]
  · intro a b
    rw [hedge]
    split <;> rfl
  · intro x
    have hchanged : (p.modify now id payload f).changed =
        if !p.store.editsNothing id Node.fileKind f then p.changed.insert id else p.changed := by
      rw [← Store.modify_snd]
      rfl
    rw [hchanged, List.mem_singleton]
    by_cases hx : x = id
    · subst hx
      rw [← hnothing]
      cases p.store.editsNothing x Node.fileKind f <;> simp
    · split
      · simp [hx, Ne.symm hx]
      · simp [hx]
  · intro x
    have hdirty := p.store.mem_modify_dirty now id Node.fileKind .dependency payload f x
    change x ∈ (p.modify now id payload f).store.dirty ↔ _ at hdirty
    rw [hdirty, hnothing, List.mem_singleton]
    simp only [hedge, ne_eq, not_true_eq_false, false_and, and_false, exists_false, or_false]
    refine or_congr_right ⟨?_, ?_⟩
    · rintro ⟨h, rfl⟩
      exact ⟨rfl, h⟩
    · rintro ⟨rfl, h⟩
      exact ⟨h, rfl⟩

/-- The edge to a visited id is changed after its node; nothing else is. -/
theorem Progress.Visits.edge_after {target : String} {s' : Store} (h : Visits path [target] onNode (fun _ o => o) p p')
    (hnode : ∀ x, s'.node? x = p'.store.node? x)
    (hedge : ∀ a b, s'.edge? a b =
      if a = path ∧ b = target then onEdge b (p'.store.edge? a b) else p'.store.edge? a b)
    (hdirty : ∀ x, x ∈ s'.dirty ↔ x ∈ p'.store.dirty ∨
      s'.edge? path target ≠ p'.store.edge? path target ∧ (x = path ∨ x = target)) :
    Visits path [target] onNode onEdge p { p' with store := s' } := by
  have hedges : ∀ a b, p'.store.edge? a b = p.store.edge? a b := by
    intro a b
    rw [h.edge]
    split <;> rfl
  constructor
  · intro x
    rw [hnode, h.node]
  · intro a b
    simp only [hedge, hedges, List.mem_singleton]
  · intro x
    rw [hnode, h.changed]
  · intro x
    rw [hdirty, h.dirty]
    simp only [hnode, hedges, ne_eq, not_true_eq_false, false_and, and_false, exists_false, or_false,
      List.mem_singleton, exists_eq_left]
    exact or_assoc

theorem Progress.Visits.edge_kept {target : String} (h : Visits path [target] onNode (fun _ o => o) p p')
    (hedge : onEdge target (p'.store.edge? path target) = p'.store.edge? path target) :
    Visits path [target] onNode onEdge p p' := by
  refine h.edge_after (fun _ => rfl) (fun a b => ?_) fun x => by simp
  split
  · next hab => rw [hab.1, hab.2, hedge]
  · rfl

theorem link_visits (now : Time) (path : String) (payload : Json) (p : Progress) (target : String) :
    Progress.Visits path [target] (fun x o => some (addUser path (o.getD (.forPath x))))
      (fun b o => some (o.getD (Edge.ofEnds path b Edge.importKind))) p (link now path payload p target) := by
  have hmod := modify_visits now path target payload (addUser path) p
  simp only [link]
  split
  · next e he => exact hmod.edge_kept (by rw [he, Option.getD_some])
  · next hnone =>
    have hfresh : (p.modify now target payload (addUser path)).store.hasEdge
        (Edge.ofEnds path target Edge.importKind) = false := by
      change ((p.modify now target payload (addUser path)).store.edge? path target == _) = false
      rw [hnone]
      rfl
    refine hmod.edge_after (Store.node?_putEdge _ _ _ _) (fun a b => ?_) fun x => ?_
    · rw [Store.edge?_putEdge, hfresh]
      simp only [Edge.key, Edge.ofEnds, Prod.mk.injEq, true_and, eq_comm (a := path), eq_comm (a := target)]
      split
      · next hab => rw [hab.1, hab.2, hnone, Option.getD_none]
      · rfl
    · rw [Store.mem_putEdge_dirty, hfresh, Store.edge?_putEdge, hfresh, hnone]
      simp [Edge.key, Edge.ofEnds]

theorem unlink_visits (now : Time) (path : String) (payload : Json) (p : Progress) (target : String) :
    Progress.Visits path [target] (fun _ o => o.map (dropUser path))
      (fun _ o => o.filter (·.kind != Edge.importKind)) p (unlink now path payload p target) := by
  have hmod : Progress.Visits path [target] (fun _ o => o.map (dropUser path)) (fun _ o => o) p
      (if p.store.contains target then p.modify now target payload (dropUser path) else p) := by
    split
    · next hstored =>
      obtain ⟨n, hn⟩ := Option.isSome_iff_exists.mp (Store.contains_eq p.store target ▸ hstored)
      have hmod := modify_visits now path target payload (dropUser path) p
      refine ⟨fun x => ?_, hmod.edge, hmod.changed, hmod.dirty⟩
      rw [hmod.node]
      split
      · next hx => rw [List.mem_singleton.mp hx, hn, Option.getD_some, Option.map_some]
      · rfl
    · next hmissing =>
      have hnone : p.store.node? target = none := by
        rwa [Store.contains_eq, Option.not_isSome_iff_eq_none] at hmissing
      have hsame : ∀ x, ¬ (x ∈ [target] ∧ (p.store.node? x == p.store.node? x) = false) := by
        rintro x ⟨hx, hdiffers⟩
        rw [List.mem_singleton.mp hx, hnone] at hdiffers
        cases hdiffers
      constructor
      · intro x
        split
        · next hx => rw [List.mem_singleton.mp hx, hnone, Option.map_none]
        · rfl
      · intro a b
        split <;> rfl
      · exact fun x => (or_iff_left (hsame x)).symm
      · intro x
        simp only [hsame, ne_eq, not_true_eq_false, false_and, and_false, exists_false, or_false]
  simp only [unlink]
  split
  · next e he =>
    split
    · next hkind =>
      rcases Store.removeEdge_cases _ now path target with ⟨hnone, -⟩ | ⟨e', s', -, hr, -, -, hdirty⟩
      · rw [hnone] at he
        cases he
      · rw [hr]
        obtain ⟨hnode, hedge⟩ := Store.lookup_removeEdge hr
        refine hmod.edge_after hnode (fun a b => ?_) fun x => ?_
        · rw [hedge]
          simp only [Prod.mk.injEq, eq_comm (a := path), eq_comm (a := target)]
          split
          · next hab => rw [hab.1, hab.2, he, Option.filter_some, if_neg (by simpa using hkind)]
          · rfl
        · rw [hdirty, hedge, if_pos rfl, he]
          simp
    · next hkind => exact hmod.edge_kept (by rw [he]; simpa using hkind)
  · next hnone => exact hmod.edge_kept (by rw [hnone, Option.filter_none])

variable (c : DependencyChange) (previous : StringSet)

/-- The nodes that are looked at when the imports are replaced. -/
def Meets (x : String) : Prop := x = c.path ∨ x ∈ c.wanted ∨ x ∈ previous

/-- The users that a node has afterwards. -/
def usersAfter (x : String) (ids : StringSet) : StringSet :=
  if x ∈ c.wanted then ids.insert c.path else if x ∈ previous then ids.erase c.path else ids

/-- What becomes of a node that is stored: the file lists what is wanted, and the users of the others follow. -/
def rewrite (x : String) (n : Node) : Node :=
  let n := if x = c.path then setImports c.wanted n else n
  { n with relationships := { n.relationships with usedBy := c.usersAfter previous x n.relationships.usedBy } }

/-- What stands in a node's place afterwards: the file and all that is wanted are there. -/
def nodeAfter (x : String) (o : Option Node) : Option Node :=
  (if x = c.path ∨ x ∈ c.wanted then some (o.getD (.forPath x)) else o).map (c.rewrite previous x)

/-- What stands in the place of the edge from the file to an id afterwards. -/
def edgeAfter (target : String) (o : Option Edge) : Option Edge :=
  if target ∈ c.wanted then some (o.getD (Edge.ofEnds c.path target Edge.importKind))
  else if target ∈ previous then o.filter (·.kind != Edge.importKind) else o

section Rewrite
variable {c previous} {x : String}

theorem rewrite_path : c.rewrite previous c.path =
    fun n => if c.path ∈ previous then dropUser c.path (setImports c.wanted n) else setImports c.wanted n := by
  funext n
  simp only [rewrite, usersAfter, if_true, if_neg c.wanted_irrefl]
  split <;> rfl

theorem rewrite_wanted (h : x ∈ c.wanted) : c.rewrite previous x = addUser c.path := by
  have hpath : x ≠ c.path := fun hx => c.wanted_irrefl (hx ▸ h)
  funext n
  simp only [rewrite, usersAfter, if_neg hpath, if_pos h, addUser]

theorem rewrite_dropped (hpath : x ≠ c.path) (hwanted : x ∉ c.wanted) (h : x ∈ previous) :
    c.rewrite previous x = dropUser c.path := by
  funext n
  simp only [rewrite, usersAfter, if_neg hpath, if_neg hwanted, if_pos h, dropUser]

theorem rewrite_other (h : ¬ c.Meets previous x) : c.rewrite previous x = id := by
  simp only [Meets, not_or] at h
  funext n
  simp only [rewrite, usersAfter, if_neg h.1, if_neg h.2.1, if_neg h.2.2, id]

theorem rewrite_metrics (n : Node) : (c.rewrite previous x n).metrics = n.metrics := by
  simp only [rewrite]
  split <;> rfl

theorem rewrite_imports (h : x ≠ c.path) (n : Node) :
    (c.rewrite previous x n).relationships.imports = n.relationships.imports := by
  simp only [rewrite, if_neg h]

theorem nodeAfter_some (n : Node) : c.nodeAfter previous x (some n) = some (c.rewrite previous x n) := by
  unfold nodeAfter
  split <;> rfl

theorem nodeAfter_none : c.nodeAfter previous x none =
    if x = c.path ∨ x ∈ c.wanted then some (c.rewrite previous x (.forPath x)) else none := by
  unfold nodeAfter
  split <;> rfl

theorem nodeAfter_other (h : ¬ c.Meets previous x) (o : Option Node) : c.nodeAfter previous x o = o := by
  rw [nodeAfter, rewrite_other h, Option.map_id, if_neg fun hx => h (hx.imp_right Or.inl)]
  rfl

end Rewrite

/-- The three parts of a replacement visit the file, all that is wanted, and what is not wanted any more. -/
structure Stages (s : Store) (p₁ p₂ p₃ : Progress) : Prop where
  set : Progress.Visits c.path [c.path] (fun x o => some (setImports c.wanted (o.getD (.forPath x)))) (fun _ o => o)
    ⟨s, ∅⟩ p₁
  link : Progress.Visits c.path c.wanted.toList (fun x o => some (addUser c.path (o.getD (.forPath x))))
    (fun b o => some (o.getD (Edge.ofEnds c.path b Edge.importKind))) p₁ p₂
  unlink : Progress.Visits c.path ((s.importsOf c.path).toList.filter fun id => !c.wanted.contains id)
    (fun _ o => o.map (dropUser c.path)) (fun _ o => o.filter (·.kind != Edge.importKind)) p₂ p₃

theorem nodup_toList (ids : StringSet) : ids.toList.Nodup := by
  simpa [List.Nodup] using ids.distinct_toList

theorem apply_stages (now : Time) (payload : Json) (s : Store) :
    ∃ p₁ p₂, c.Stages s p₁ p₂ ⟨(c.apply now payload s).1, (c.apply now payload s).2⟩ :=
  ⟨_, _, modify_visits now c.path c.path payload _ ⟨s, ∅⟩,
    .foldl (link_visits now c.path payload) (nodup_toList _) _,
    .foldl (unlink_visits now c.path payload) ((nodup_toList _).filter _) _⟩

namespace Stages
variable {c} {s : Store} {p₁ p₂ p₃ : Progress}

theorem mem_dropped {ids : StringSet} {x : String} :
    x ∈ ids.toList.filter (fun id => !c.wanted.contains id) ↔ x ∈ ids ∧ x ∉ c.wanted := by
  rw [List.mem_filter, Std.ExtTreeSet.mem_toList, Bool.not_eq_true', ← Bool.not_eq_true,
    Std.ExtTreeSet.contains_iff_mem]

theorem node (h : c.Stages s p₁ p₂ p₃) (x : String) :
    p₃.store.node? x = c.nodeAfter (s.importsOf c.path) x (s.node? x) := by
  have h₁ := h.set.node x
  have h₂ := h.link.node x
  have h₃ := h.unlink.node x
  simp only [List.mem_singleton, Std.ExtTreeSet.mem_toList, mem_dropped] at h₁ h₂ h₃
  rw [h₃, h₂, h₁]
  by_cases hpath : x = c.path
  · subst hpath
    simp only [c.wanted_irrefl, not_false_eq_true, and_true, if_true, if_false, nodeAfter, true_or, rewrite_path]
    split <;> rfl
  · by_cases hwanted : x ∈ c.wanted
    · simp [hpath, hwanted, nodeAfter, rewrite_wanted hwanted]
    · by_cases hprevious : x ∈ s.importsOf c.path
      · simp [hpath, hwanted, hprevious, nodeAfter, rewrite_dropped hpath hwanted hprevious]
      · have hother : ¬ c.Meets (s.importsOf c.path) x := by simp [Meets, hpath, hwanted, hprevious]
        simp [hpath, hwanted, hprevious, nodeAfter_other hother]

theorem edge (h : c.Stages s p₁ p₂ p₃) (a b : String) :
    p₃.store.edge? a b = if a = c.path then c.edgeAfter (s.importsOf c.path) b (s.edge? a b) else s.edge? a b := by
  have h₁ := h.set.edge a b
  have h₂ := h.link.edge a b
  have h₃ := h.unlink.edge a b
  simp only [List.mem_singleton, Std.ExtTreeSet.mem_toList, mem_dropped, ite_self] at h₁ h₂ h₃
  rw [h₃, h₂, h₁, edgeAfter]
  by_cases hpath : a = c.path
  · by_cases hwanted : b ∈ c.wanted <;> simp [hpath, hwanted]
  · simp [hpath]

/-- A drop of the file's own id from its users cannot make up for the imports that are set. -/
theorem setImports_eq_self {id : String} {ids : StringSet} {n : Node} (h : dropUser id (setImports ids n) = n) :
    setImports ids n = n :=
  calc setImports ids n
      = setImports ids (dropUser id (setImports ids n)) := by rw [h]
    _ = dropUser id (setImports ids n) := rfl
    _ = n := h

/-- The file's own node is met twice if it was an import of itself. It differs in the end if it did once. -/
theorem path_differs (h : c.Stages s p₁ p₂ p₃) :
    (s.node? c.path == p₁.store.node? c.path) = false ∨
      (c.path ∈ s.importsOf c.path ∧ (p₂.store.node? c.path == p₃.store.node? c.path) = false) ↔
    (s.node? c.path == p₃.store.node? c.path) = false := by
  have h₁ := h.set.node c.path
  have h₂ := h.link.node c.path
  have h₃ := h.unlink.node c.path
  simp only [List.mem_singleton, if_true, Std.ExtTreeSet.mem_toList, mem_dropped, c.wanted_irrefl, if_false,
    not_false_eq_true, and_true] at h₁ h₂ h₃
  rw [h₂] at h₃ ⊢
  rw [h₁, Option.map_some] at h₃
  rw [h₁, h₃]
  split
  · next hprevious =>
    generalize s.node? c.path = o
    have hset : Node.metricsAt (some (setImports c.wanted (o.getD (.forPath c.path)))) = Node.metricsAt o := by
      cases o <;> rfl
    have hdropped : Node.metricsAt (some (dropUser c.path (setImports c.wanted (o.getD (.forPath c.path))))) =
        Node.metricsAt o := hset
    rw [Node.differs_at_iff hset, Node.differs_at_iff hdropped, Node.differs_at_iff (hdropped.trans hset.symm),
      Node.beq_at_self_congr hset]
    have hback : some (dropUser c.path (setImports c.wanted (o.getD (.forPath c.path)))) = o →
        some (setImports c.wanted (o.getD (.forPath c.path))) = o := by
      intro ho
      cases o with
      | none => cases ho
      | some n => exact congrArg some (setImports_eq_self (Option.some.inj ho))
    grind
  · next hprevious => simp [hprevious]

theorem changed (h : c.Stages s p₁ p₂ p₃) (x : String) :
    x ∈ p₃.changed ↔ c.Meets (s.importsOf c.path) x ∧ (s.node? x == p₃.store.node? x) = false := by
  have h₁ := h.set.node x
  have h₂ := h.link.node x
  have h₃ := h.unlink.node x
  have hpath := h.path_differs
  rw [h.unlink.changed, h.link.changed, h.set.changed]
  simp only [List.mem_singleton, Std.ExtTreeSet.mem_toList, mem_dropped, Std.ExtTreeSet.not_mem_empty, false_or,
    Meets] at h₁ h₂ h₃ ⊢
  by_cases hx : x = c.path
  · subst hx
    simpa [c.wanted_irrefl] using hpath
  · by_cases hwanted : x ∈ c.wanted
    · simp only [hx, hwanted, if_true, if_false, not_true_eq_false, and_false] at h₁ h₂ h₃
      simp [hx, hwanted, h₁, h₂, h₃]
    · simp only [hx, hwanted, if_false, not_false_eq_true, and_true] at h₁ h₂ h₃
      simp [hx, hwanted, h₁, h₂]

theorem dirty (h : c.Stages s p₁ p₂ p₃) (x : String) : x ∈ p₃.store.dirty ↔ x ∈ s.dirty ∨ x ∈ p₃.changed ∨
    ∃ b, p₃.store.edge? c.path b ≠ s.edge? c.path b ∧ (x = c.path ∨ x = b) := by
  have hset : ∀ b, p₁.store.edge? c.path b = s.edge? c.path b := by
    intro b
    rw [h.set.edge, ite_self]
  have hedges : ∀ b, p₃.store.edge? c.path b ≠ s.edge? c.path b ↔
      (b ∈ c.wanted.toList ∧ p₂.store.edge? c.path b ≠ p₁.store.edge? c.path b) ∨
      (b ∈ (s.importsOf c.path).toList.filter (fun id => !c.wanted.contains id) ∧
        p₃.store.edge? c.path b ≠ p₂.store.edge? c.path b) := by
    intro b
    have h₂ := h.link.edge c.path b
    have h₃ := h.unlink.edge c.path b
    simp only [Std.ExtTreeSet.mem_toList, mem_dropped, true_and] at h₂ h₃ ⊢
    by_cases hwanted : b ∈ c.wanted
    · simp only [hwanted, not_true_eq_false, and_false, if_false] at h₃
      simp [hwanted, h₃, hset]
    · simp only [hwanted, if_false] at h₂
      rw [h₂, hset] at h₃ ⊢
      grind
  rw [h.unlink.dirty, h.link.dirty, h.set.dirty, h.unlink.changed, h.link.changed, h.set.changed]
  simp only [hedges, or_and_right, exists_or, hset, ne_eq, not_true_eq_false, false_and, and_false, exists_false,
    or_false, Std.ExtTreeSet.not_mem_empty, false_or]
  grind

end Stages

/-- All that the replacement does to a store, but for what it adds to the history. -/
structure Replaced (s s' : Store) (reported : StringSet) : Prop where
  node : ∀ x, s'.node? x = c.nodeAfter (s.importsOf c.path) x (s.node? x)
  edge : ∀ a b, s'.edge? a b = if a = c.path then c.edgeAfter (s.importsOf c.path) b (s.edge? a b) else s.edge? a b
  changed : ∀ x, x ∈ reported ↔ c.Meets (s.importsOf c.path) x ∧ (s.node? x == s'.node? x) = false
  dirty : ∀ x, x ∈ s'.dirty ↔ x ∈ s.dirty ∨ x ∈ reported ∨
    ∃ b, s'.edge? c.path b ≠ s.edge? c.path b ∧ (x = c.path ∨ x = b)

theorem apply_replaced (now : Time) (payload : Json) (s : Store) :
    c.Replaced s (c.apply now payload s).1 (c.apply now payload s).2 := by
  obtain ⟨p₁, p₂, h⟩ := c.apply_stages now payload s
  exact ⟨h.node, h.edge, h.changed, h.dirty⟩

namespace Replaced
variable {c} {s s' : Store} {reported : StringSet} {x a b : String}

/-- A node that stands afterwards was rewritten from the one that stood there before, or from a new one under the id
of the file or of an import. -/
theorem of_node (h : c.Replaced s s' reported) {n : Node} (hn : s'.node? x = some n) :
    ∃ m, n = c.rewrite (s.importsOf c.path) x m ∧
      (s.node? x = some m ∨ (x = c.path ∨ x ∈ c.wanted) ∧ m = .forPath x) := by
  rw [h.node] at hn
  cases hx : s.node? x with
  | some m =>
    rw [hx, nodeAfter_some] at hn
    exact ⟨m, (Option.some.inj hn).symm, Or.inl rfl⟩
  | none =>
    rw [hx, nodeAfter_none] at hn
    split at hn
    · next hmet => exact ⟨.forPath x, (Option.some.inj hn).symm, Or.inr ⟨hmet, rfl⟩⟩
    · cases hn

/-- An edge that stands afterwards stood there before or is new and stands for an import. -/
theorem of_edge (h : c.Replaced s s' reported) {e : Edge} (he : s'.edge? a b = some e) : s.edge? a b = some e ∨
    a = c.path ∧ b ∈ c.wanted ∧ e = .ofEnds c.path b Edge.importKind := by
  rw [h.edge] at he
  split at he
  · next ha =>
    unfold edgeAfter at he
    split at he
    · next hb =>
      cases hold : s.edge? a b with
      | some old =>
        rw [hold] at he
        exact Or.inl he
      | none =>
        rw [hold] at he
        exact Or.inr ⟨ha, hb, (Option.some.inj he).symm⟩
    · split at he
      · exact Or.inl (Option.filter_eq_some_iff.mp he).1
      · exact Or.inl he
  · exact Or.inl he

end Replaced
end DependencyChange
end CodeGraph
