import CodeGraph.Proofs.Graph.Repeated
import CodeGraph.Proofs.Project.Dependencies
import CodeGraph.Engine.Inbound
/-!
What a replacement of imports reports against what it marks. Nodes that differ are both; an edge that is put or taken
away marks its ends and reports nothing, so the two sets are equal exactly if the ends of every such edge differ as
nodes.
-/
namespace CodeGraph
open Store

namespace DependencyChange
variable (c : DependencyChange) (s : Store)

/-- The file is stored with what is wanted as its imports, its uses and its dependencies. A node with a metric that is
no number differs even from itself. -/
def IsListed : Prop :=
  ∃ n, s.node? c.path = some n ∧ (n == n) = true ∧ n.relationships.imports = c.wanted ∧
    n.relationships.uses = c.wanted ∧ n.dependencies = c.wanted

/-- A node lists the file among its users already. -/
def IsKnownTo (target : String) : Prop :=
  ∃ n, s.node? target = some n ∧ (n == n) = true ∧ c.path ∈ n.relationships.usedBy

/-- A node has the file to drop from its users. -/
def IsDroppedBy (target : String) : Prop :=
  ∃ n, s.node? target = some n ∧ (c.path ∈ n.relationships.usedBy ∨ (n == n) = false)

/-- Whatever edge is put or taken away, its ends differ as nodes. -/
structure ShowsEdges : Prop where
  put : ∀ b ∈ c.wanted, s.edge? c.path b = none → ¬ c.IsListed s ∧ ¬ c.IsKnownTo s b
  taken : ∀ b ∈ s.importsOf c.path, b ∉ c.wanted → b ≠ c.path →
    ∀ e, s.edge? c.path b = some e → e.kind = Edge.importKind → c.IsDroppedBy s b

variable {c s} {s' : Store} {reported : StringSet} {b x : String}

theorem nodeAfter_differs_iff {previous : StringSet} {o : Option Node} :
    (o == c.nodeAfter previous x o) = false ↔ c.nodeAfter previous x o ≠ o ∨ (o == o) = false := by
  apply Node.differs_at_iff
  cases o with
  | some n => exact (congrArg Node.metricsAt (nodeAfter_some n)).trans (rewrite_metrics n)
  | none =>
    rw [nodeAfter_none]
    split
    · exact rewrite_metrics _
    · rfl

theorem edgeAfter_ne_iff {previous : StringSet} {o : Option Edge} : c.edgeAfter previous b o ≠ o ↔
    b ∈ c.wanted ∧ o = none ∨
      (b ∈ previous ∧ b ∉ c.wanted) ∧ ∃ e, o = some e ∧ e.kind = Edge.importKind := by
  unfold edgeAfter
  by_cases hwanted : b ∈ c.wanted
  · cases o <;> simp [hwanted]
  · by_cases hprevious : b ∈ previous
    · cases o <;> simp [hwanted, hprevious, Option.filter_some]
    · simp [hwanted, hprevious]

theorem setImports_eq_self_iff {ids : StringSet} {n : Node} : setImports ids n = n ↔
    n.relationships.imports = ids ∧ n.relationships.uses = ids ∧ n.dependencies = ids := by
  constructor
  · intro h
    rw [← h]
    exact ⟨rfl, rfl, rfl⟩
  · rintro ⟨rfl, huses, hdependencies⟩
    have hkept : setImports n.relationships.imports n = { n with
        dependencies := n.dependencies, relationships := { n.relationships with uses := n.relationships.uses } } := by
      rw [huses, hdependencies]
      rfl
    exact hkept

theorem addUser_eq_self_iff {id : String} {n : Node} : addUser id n = n ↔ id ∈ n.relationships.usedBy := by
  constructor
  · intro h
    rw [← h]
    exact Std.ExtTreeSet.mem_insert_self
  · intro h
    have hkept : n.relationships.usedBy.insert id = n.relationships.usedBy := by
      apply Std.ExtTreeSet.ext_mem
      intro x
      rw [Std.ExtTreeSet.mem_insert, Std.compare_eq_iff_eq]
      exact or_iff_right_of_imp fun hx => hx ▸ h
    simp only [addUser, hkept]

theorem dropUser_eq_self_iff {id : String} {n : Node} : dropUser id n = n ↔ id ∉ n.relationships.usedBy := by
  constructor
  · intro h
    rw [← h]
    simp [dropUser]
  · intro h
    have hkept : n.relationships.usedBy.erase id = n.relationships.usedBy :=
      Node.erase_eq_self (by rwa [← Bool.not_eq_true, Std.ExtTreeSet.contains_iff_mem])
    simp only [dropUser, hkept]

namespace Replaced

theorem mem_reported_iff (h : c.Replaced s s' reported) : x ∈ reported ↔ c.Meets (s.importsOf c.path) x ∧
    (c.nodeAfter (s.importsOf c.path) x (s.node? x) ≠ s.node? x ∨ (s.node? x == s.node? x) = false) := by
  rw [h.changed, h.node, nodeAfter_differs_iff]

theorem path_mem_reported (h : c.Replaced s s' reported) : c.path ∈ reported ↔ ¬ c.IsListed s := by
  have hmeets : c.Meets (s.importsOf c.path) c.path := Or.inl rfl
  rw [h.mem_reported_iff, and_iff_right hmeets, IsListed]
  cases hn : s.node? c.path with
  | none => simp [nodeAfter_none]
  | some n =>
    have himports : s.importsOf c.path = n.relationships.imports := by rw [importsOf, hn]
    have hsame : c.rewrite (s.importsOf c.path) c.path n = n ↔ setImports c.wanted n = n := by
      rw [rewrite_path]
      split
      · next hself =>
        constructor
        · exact Stages.setImports_eq_self
        · intro hset
          rw [himports, (setImports_eq_self_iff.mp hset).1] at hself
          exact absurd hself c.wanted_irrefl
      · exact Iff.rfl
    change _ ∨ (n == n) = false ↔ _
    rw [nodeAfter_some, ne_eq, Option.some.injEq, hsame, setImports_eq_self_iff]
    simp only [Option.some.injEq, exists_eq_left']
    rw [← Bool.not_eq_true]
    tauto

theorem wanted_mem_reported (h : c.Replaced s s' reported) (hb : b ∈ c.wanted) :
    b ∈ reported ↔ ¬ c.IsKnownTo s b := by
  have hmeets : c.Meets (s.importsOf c.path) b := Or.inr (Or.inl hb)
  rw [h.mem_reported_iff, and_iff_right hmeets, IsKnownTo]
  cases hn : s.node? b with
  | none => simp [nodeAfter_none, hb]
  | some n =>
    change _ ∨ (n == n) = false ↔ _
    rw [nodeAfter_some, rewrite_wanted hb, ne_eq, Option.some.injEq, addUser_eq_self_iff]
    simp only [Option.some.injEq, exists_eq_left']
    rw [← Bool.not_eq_true]
    tauto

theorem dropped_mem_reported (h : c.Replaced s s' reported) (hprevious : b ∈ s.importsOf c.path)
    (hwanted : b ∉ c.wanted) (hpath : b ≠ c.path) : b ∈ reported ↔ c.IsDroppedBy s b := by
  have hmeets : c.Meets (s.importsOf c.path) b := Or.inr (Or.inr hprevious)
  rw [h.mem_reported_iff, and_iff_right hmeets, IsDroppedBy]
  cases hn : s.node? b with
  | none => simp [nodeAfter_none, hwanted, hpath]
  | some n =>
    change _ ∨ (n == n) = false ↔ _
    rw [nodeAfter_some, rewrite_dropped hpath hwanted hprevious, ne_eq, Option.some.injEq, dropUser_eq_self_iff,
      not_not]
    simp only [Option.some.injEq, exists_eq_left']

/-- A file that had an import which is not wanted any more lists something else. -/
theorem path_mem_of_dropped (h : c.Replaced s s' reported) (hprevious : b ∈ s.importsOf c.path)
    (hwanted : b ∉ c.wanted) : c.path ∈ reported := by
  rw [h.path_mem_reported]
  rintro ⟨n, hn, -, himports, -⟩
  rw [importsOf, hn] at hprevious
  exact hwanted (himports ▸ hprevious)

theorem edge_ne_iff (h : c.Replaced s s' reported) : s'.edge? c.path b ≠ s.edge? c.path b ↔
    b ∈ c.wanted ∧ s.edge? c.path b = none ∨
      (b ∈ s.importsOf c.path ∧ b ∉ c.wanted) ∧ ∃ e, s.edge? c.path b = some e ∧ e.kind = Edge.importKind := by
  rw [h.edge, if_pos rfl, edgeAfter_ne_iff]

/-- The ends of all edges that are put or taken away are reported exactly if they are shown by the nodes. -/
theorem ends_reported_iff (h : c.Replaced s s' reported) :
    (∀ b, s'.edge? c.path b ≠ s.edge? c.path b → c.path ∈ reported ∧ b ∈ reported) ↔ c.ShowsEdges s := by
  simp only [h.edge_ne_iff]
  constructor
  · intro hends
    refine ⟨fun b hb hnone => ?_, fun b hprevious hwanted hpath e he hkind => ?_⟩
    · obtain ⟨hfile, hnode⟩ := hends b (Or.inl ⟨hb, hnone⟩)
      exact ⟨h.path_mem_reported.mp hfile, (h.wanted_mem_reported hb).mp hnode⟩
    · obtain ⟨-, hnode⟩ := hends b (Or.inr ⟨⟨hprevious, hwanted⟩, e, he, hkind⟩)
      exact (h.dropped_mem_reported hprevious hwanted hpath).mp hnode
  · rintro hshown b (⟨hb, hnone⟩ | ⟨⟨hprevious, hwanted⟩, e, he, hkind⟩)
    · obtain ⟨hfile, hnode⟩ := hshown.put b hb hnone
      exact ⟨h.path_mem_reported.mpr hfile, (h.wanted_mem_reported hb).mpr hnode⟩
    · have hfile := h.path_mem_of_dropped hprevious hwanted
      refine ⟨hfile, ?_⟩
      by_cases hpath : b = c.path
      · exact hpath ▸ hfile
      · exact (h.dropped_mem_reported hprevious hwanted hpath).mpr (hshown.taken b hprevious hwanted hpath e he hkind)

theorem mem_dirty_iff (h : c.Replaced s s' reported) (hclean : s.dirty = ∅) (x : String) : x ∈ s'.dirty ↔
    x ∈ reported ∨ ∃ b, s'.edge? c.path b ≠ s.edge? c.path b ∧ (x = c.path ∨ x = b) := by
  rw [h.dirty, hclean]
  exact or_iff_right Std.ExtTreeSet.not_mem_empty

theorem reported_eq_iff (h : c.Replaced s s' reported) (hclean : s.dirty = ∅) :
    reported = s'.dirty ↔ c.ShowsEdges s := by
  have hdirty := h.mem_dirty_iff hclean
  rw [← h.ends_reported_iff]
  constructor
  · intro hsame b hb
    rw [hsame]
    exact ⟨(hdirty _).mpr (Or.inr ⟨b, hb, Or.inl rfl⟩), (hdirty _).mpr (Or.inr ⟨b, hb, Or.inr rfl⟩)⟩
  · intro hends
    apply Std.ExtTreeSet.ext_mem
    intro x
    rw [hdirty]
    refine (or_iff_left_of_imp ?_).symm
    rintro ⟨b, hb, rfl | rfl⟩
    · exact (hends b hb).1
    · exact (hends x hb).2

end Replaced

/-- Where imports, users and edges tell the same, no edge is put or taken away that the nodes do not show. -/
theorem showsEdges_of_linked (h : s.Linked) : c.ShowsEdges s := by
  obtain ⟨links, hlinks, -⟩ := h
  constructor
  · intro b hb hnone
    have hunlinked : ¬ links c.path b := by
      rw [← hlinks.joins]
      rintro ⟨e, he⟩
      rw [hnone] at he
      cases he
    refine ⟨?_, ?_⟩
    · rintro ⟨n, hn, -, himports, -⟩
      exact hunlinked ((hlinks.imports _ _).mp ⟨n, hn, himports ▸ hb⟩)
    · rintro ⟨n, hn, -, hknown⟩
      exact hunlinked ((hlinks.usedBy _ _).mp ⟨n, hn, hknown⟩)
  · intro b hprevious _ _ _ _ _
    obtain ⟨n, hn, hknown⟩ := (hlinks.usedBy _ _).mpr ((hlinks.imports _ _).mp (imports_iff_mem.mpr hprevious))
    exact ⟨n, hn, Or.inl hknown⟩

/-- From a store without marks, a replacement marks what it reports and the ends of the edges that it puts or takes
away. These are the same ids exactly if every such edge has ends that differ as nodes, as in every graph whose imports, users
and edges tell the same; then agents are notified whenever anything is marked. -/
theorem reported_marked_iff (hclean : s.dirty = ∅) (c : DependencyChange) (now : Time) (payload : Json) :
    let t := (c.apply now payload s).1
    let reported := (c.apply now payload s).2
    (∀ x, x ∈ t.dirty ↔ x ∈ reported ∨ ∃ b, t.edge? c.path b ≠ s.edge? c.path b ∧ (x = c.path ∨ x = b)) ∧
    (reported = t.dirty ↔ c.ShowsEdges s) ∧
    (s.Linked → c.ShowsEdges s) ∧
    (c.ShowsEdges s → ∀ e : Engine, e.store = s → parse payload = .ok c →
      (e.dependenciesChanged now payload).2 = if t.dirty.isEmpty then [] else
        e.notifyAgents c.path "dependencies" (.obj [("dependencies", .ofList .str c.dependencies)])) := by
  intro t reported
  have h : c.Replaced s t reported := c.apply_replaced now payload s
  refine ⟨h.mem_dirty_iff hclean, h.reported_eq_iff hclean, showsEdges_of_linked, ?_⟩
  rintro hshown e rfl hparse
  rw [← (h.reported_eq_iff hclean).mpr hshown]
  simp only [Engine.dependenciesChanged, hparse]
  change (if reported.isEmpty then _ else _ : Outcome).2 = _
  split <;> rfl

/-- A file and its import, with the edge between them taken away. -/
def parted : Store :=
  ((empty none).updated [(noon, .dependencies ⟨"a", ["b"]⟩ .null), (noon, .removeEdge "a" "b")]).takeDirty.2

/-- Somebody who follows the file. -/
def follower : Engine :=
  { Engine.empty {} with
    store := parted
    agents := .ofList [("scribe", AgentState.parse noon (.obj [
      ("agentId", .str "scribe"), ("context", .obj [("relevantFiles", .arr [.str "a"])])]) |>.value)] }

/-- The import is announced again: its edge comes back and marks both ends, but nothing is reported and nobody told. -/
theorem rejoined_unreported :
    let payload : Json := .obj [("dependencies", .arr [.str "b"]), ("path", .str "a")]
    let c : DependencyChange := ⟨"a", ["b"]⟩
    let t := (c.apply noon payload parted).1
    let reported := (c.apply noon payload parted).2
    parted.dirty = ∅ ∧ parse payload = .ok c ∧ t.dirty.toList = ["a", "b"] ∧ reported.toList = [] ∧
      reported ≠ t.dirty ∧ (follower.notifyAgents "a" "dependencies" .null).length = 1 ∧
      (follower.dependenciesChanged noon payload).2.length = 0 := by
  refine ⟨by decide +kernel, rfl, by decide +kernel, by decide +kernel, ?_, by decide +kernel, by decide +kernel⟩
  intro hsame
  have hlists := congrArg Std.ExtTreeSet.toList hsame
  revert hlists
  decide +kernel

/-- A file and its import. -/
def paired : Store := ((empty none).updated [(noon, .dependencies ⟨"a", ["b"]⟩ .null)]).takeDirty.2

theorem paired_linked : paired.Linked := by
  have hkept : ∀ u ∈ [(noon, GraphUpdate.dependencies ⟨"a", ["b"]⟩ .null)], u.2.KeepsLinks := by
    simp [GraphUpdate.KeepsLinks]
  obtain ⟨links, hlinks, hirrefl⟩ := updated_linked none hkept
  exact ⟨links, ⟨hlinks.imports, hlinks.usedBy, hlinks.joins, hlinks.kind, hlinks.even⟩, hirrefl⟩

theorem redirected_marked :
    let c : DependencyChange := ⟨"a", ["c"]⟩
    paired.dirty = ∅ ∧ paired.Linked ∧ (c.apply noon .null paired).2 = (c.apply noon .null paired).1.dirty ∧
      (c.apply noon .null paired).1.dirty.toList = ["a", "b", "c"] := by
  intro c
  have hclean : paired.dirty = ∅ := rfl
  obtain ⟨-, hsame, hshown, -⟩ := reported_marked_iff hclean c noon .null
  exact ⟨hclean, paired_linked, hsame.mpr (hshown paired_linked), by decide +kernel⟩

end DependencyChange
end CodeGraph
