import CodeGraph.Proofs.Graph.Figures
import CodeGraph.Proofs.Graph.Replacement
/-!
What replacing the imports of a file and removing a node leave behind. Every place is told from what stood there
before, those that stay as they were included.
-/
namespace CodeGraph

/-- The node with its users changed and all else as it was. -/
def Node.mapUsers (f : StringSet → StringSet) (n : Node) : Node :=
  { n with relationships := { n.relationships with usedBy := f n.relationships.usedBy } }

namespace DependencyChange
variable (c : DependencyChange)

theorem mem_wanted {d : String} : d ∈ c.wanted ↔ d ∈ c.dependencies ∧ d ≠ c.path := by
  rw [wanted, Std.ExtTreeSet.mem_ofList, List.contains_eq_mem, decide_eq_true_eq, List.mem_filter, bne_iff_ne]

/-- The file lists what is wanted, and no longer itself among its users if it was an import of its own. -/
theorem nodeAfter_path (previous : StringSet) (o : Option Node) : c.nodeAfter previous c.path o =
    some ((setImports c.wanted (o.getD (.forPath c.path))).mapUsers fun users =>
      if c.path ∈ previous then users.erase c.path else users) := by
  rw [nodeAfter, if_pos (Or.inl rfl), Option.map_some, rewrite_path]
  dsimp only
  split <;> rfl

theorem nodeAfter_wanted {d : String} (h : d ∈ c.wanted) (previous : StringSet) (o : Option Node) :
    c.nodeAfter previous d o = some ((o.getD (.forPath d)).mapUsers (·.insert c.path)) := by
  rw [nodeAfter, if_pos (Or.inr h), Option.map_some, rewrite_wanted h]
  rfl

theorem nodeAfter_dropped {d : String} {previous : StringSet} (hpath : d ≠ c.path) (hwanted : d ∉ c.wanted)
    (h : d ∈ previous) (o : Option Node) : c.nodeAfter previous d o = o.map (Node.mapUsers (·.erase c.path)) := by
  rw [nodeAfter, if_neg (not_or.mpr ⟨hpath, hwanted⟩), rewrite_dropped hpath hwanted h]
  rfl

/-- Replacing the imports of a file sets its three lists of them, keeps the users of its imports in step, old and new,
and brings the edges of kind `imports` to what is wanted; edges that stand already are left alone. Whatever else is
stored stays as it is. -/
theorem imports_replaced (now : Time) (payload : Json) (s : Store) :
    let s' := (c.apply now payload s).1
    let previous := s.importsOf c.path
    (∀ d, d ∈ c.wanted ↔ d ∈ c.dependencies ∧ d ≠ c.path) ∧
    (let n := (s.node? c.path).getD (.forPath c.path);
      s'.node? c.path = some { n with
        dependencies := c.wanted
        relationships := { n.relationships with
          imports := c.wanted
          uses := c.wanted
          usedBy := if c.path ∈ previous then n.relationships.usedBy.erase c.path else n.relationships.usedBy } }) ∧
    (∀ d ∈ c.wanted, s'.node? d = some (((s.node? d).getD (.forPath d)).mapUsers (·.insert c.path))) ∧
    (∀ d ∈ previous, d ∉ c.wanted → d ≠ c.path → s'.node? d = (s.node? d).map (Node.mapUsers (·.erase c.path))) ∧
    (∀ x, x ≠ c.path → x ∉ c.wanted → x ∉ previous → s'.node? x = s.node? x) ∧
    (∀ d ∈ c.wanted, s'.edge? c.path d = some ((s.edge? c.path d).getD ⟨c.path, d, "imports", 1, {}⟩)) ∧
    (∀ d ∈ previous, d ∉ c.wanted → s'.edge? c.path d = (s.edge? c.path d).filter (·.kind != "imports")) ∧
    ∀ a b, (a = c.path → b ∉ c.wanted ∧ b ∉ previous) → s'.edge? a b = s.edge? a b := by
  intro s' previous
  have h : c.Replaced s s' (c.apply now payload s).2 := c.apply_replaced now payload s
  refine ⟨fun d => c.mem_wanted, ?_, fun d hd => ?_, fun d hd hwanted hpath => ?_, fun x hpath hwanted hprevious => ?_,
    fun d hd => ?_, fun d hd hwanted => ?_, fun a b hother => ?_⟩
  · rw [h.node, nodeAfter_path]
    rfl
  · rw [h.node, c.nodeAfter_wanted hd]
  · rw [h.node, c.nodeAfter_dropped hpath hwanted hd]
  · rw [h.node, nodeAfter_other (by simp [Meets, hpath, hwanted, previous, hprevious])]
  · rw [h.edge, if_pos rfl, edgeAfter, if_pos hd]
    rfl
  · rw [h.edge, if_pos rfl, edgeAfter, if_neg hwanted, if_pos hd]
    rfl
  · rw [h.edge]
    split
    · next ha => rw [edgeAfter, if_neg (hother ha).1, if_neg (hother ha).2]
    · rfl

end DependencyChange

namespace Store
variable {s s' : Store} {now : Time} {id : String} {n : Node}

/-- Of edges that are filtered, as many are gone as the number has dropped. -/
theorem size_diff_filter (edges : EdgeMap) (p : Edge → Bool) :
    (edges \ edges.filter fun _ e => p e).size = edges.size - (edges.filter fun _ e => p e).size := by
  have hkept : edges ∩ edges.filter (fun _ e => p e) = edges.filter fun _ e => p e := by
    apply Std.ExtTreeMap.ext_getElem?
    intro k
    rw [Std.ExtTreeMap.getElem?_inter]
    split
    · next hk =>
      obtain ⟨e, he⟩ := Option.isSome_iff_exists.mp (Std.ExtTreeMap.mem_iff_isSome_getElem?.mp hk)
      rw [he]
      rw [Std.ExtTreeMap.getElem?_filter'] at he
      exact (Option.filter_eq_some_iff.mp he).1
    · next hk => rw [Std.ExtTreeMap.getElem?_eq_none hk]
  have hsum : (edges \ edges.filter fun _ e => p e).size + (edges ∩ edges.filter fun _ e => p e).size = edges.size :=
    Std.ExtTreeMap.size_diff_add_size_inter_eq_size_left
  rw [hkept] at hsum
  omega

theorem removeNode_history (h : s.removeNode now id = .ok (n, s')) :
    s'.history = keepNewest s.historyLimit (s.history ++ [{
      kind := .file, path := n.path, time := now
      payload := .obj [("edgesRemoved", .nat (s.edges \ s'.edges).size), ("removed", .str id)] }]) := by
  simp only [removeNode] at h
  split at h
  · cases h
  · cases h
    rw [record_edges, size_diff_filter]
    rfl

/-- Removing a node erases it, every edge that touches it and every mention of it. Nothing else about the others is
changed. One entry is appended, before a limit on the history is enforced, and it counts the edges that are gone. -/
theorem node_removed (s : Store) (now : Time) {id : String} {n : Node} (h : s.node? id = some n) :
    ∃ s', s.removeNode now id = .ok (n, s') ∧
      s'.node? id = none ∧
      (∀ a b e, s'.edge? a b = some e → e.source ≠ id ∧ e.target ≠ id) ∧
      (∀ x m, s'.node? x = some m → (∀ k, id ∉ m.relationships.get k) ∧ id ∉ m.dependencies) ∧
      (∀ a b e, e.source ≠ id → e.target ≠ id → (s'.edge? a b = some e ↔ s.edge? a b = some e)) ∧
      (∀ x, x ≠ id → s'.node? x = (s.node? x).map fun m => { m with
        dependencies := m.dependencies.erase id
        relationships := {
          imports := m.relationships.imports.erase id
          exports := m.relationships.exports.erase id
          inherits := m.relationships.inherits.erase id
          implements := m.relationships.implements.erase id
          uses := m.relationships.uses.erase id
          usedBy := m.relationships.usedBy.erase id } }) ∧
      s'.history = keepNewest s.historyLimit (s.history ++ [{
        kind := .file, path := n.path, time := now
        payload := .obj [("edgesRemoved", .nat (s.edges \ s'.edges).size), ("removed", .str id)] }]) := by
  rcases s.removeNode_cases now id with ⟨hnone, -⟩ | ⟨m, s', hm, hr, -⟩
  · rw [h] at hnone
    cases hnone
  cases h.symm.trans hm
  obtain ⟨hnodes, hedges⟩ := lookup_removeNode hr
  refine ⟨s', hr, ?_, fun a b e he => ?_, fun x m hx => ?_, fun a b e hsource htarget => ?_, fun x hx => ?_,
    removeNode_history hr⟩
  · rw [hnodes, if_pos rfl]
  · rw [hedges, Option.filter_eq_some_iff] at he
    simpa [Edge.touches] using he.2
  · obtain ⟨-, m, -, rfl⟩ := node?_left hr hx
    refine ⟨fun k => ?_, ?_⟩
    · rw [Node.forget, Relationships.get_forget, Std.ExtTreeSet.mem_erase]
      simp
    · rw [Node.forget, Std.ExtTreeSet.mem_erase]
      simp
  · rw [hedges, Option.filter_eq_some_iff]
    simp [Edge.touches, hsource, htarget]
  · rw [hnodes, if_neg (Ne.symm hx)]
    rfl

/-- A node that others mention in every way there is, with an edge either way and one that is not about it. -/
def entangled : Store :=
  { nodes := .ofList [("db", .forPath "db"), ("log", { Node.forPath "log" with
      dependencies := .ofList ["db", "os"]
      relationships := {
        imports := .ofList ["db", "os"], exports := .ofList ["db"], inherits := .ofList ["db"]
        implements := .ofList ["db"], uses := .ofList ["db"], usedBy := .ofList ["db", "main"] } })]
    edges := .ofList [(("db", "log"), Edge.ofEnds "db" "log" "uses"), (("log", "db"), Edge.ofEnds "log" "db" "imports"),
      (("log", "os"), Edge.ofEnds "log" "os" "imports")] }

theorem entangled_removed :
    let now : Time := ⟨⟨2024, 1, 1⟩, 43200, 0⟩
    entangled.node? "db" = some (.forPath "db") ∧
    ∃ s', entangled.removeNode now "db" = .ok (.forPath "db", s') ∧
      (∀ x m, s'.node? x = some m → (∀ k, "db" ∉ m.relationships.get k) ∧ "db" ∉ m.dependencies) ∧
      s'.edges.keys = [("log", "os")] ∧
      s'.history = [⟨.file, "db", .obj [("edgesRemoved", .nat 2), ("removed", .str "db")], now⟩] := by
  intro now
  have hstored : entangled.node? "db" = some (.forPath "db") := rfl
  obtain ⟨s', hr, -, -, hforgotten, -, -, hhistory⟩ := node_removed entangled now hstored
  have hleft : s'.edges = ((StoreAction.remove "db").apply now entangled).edges := by rw [remove_apply hr]
  have hkeys : s'.edges.keys = [("log", "os")] := by
    rw [hleft]
    decide +kernel
  have hgone : (entangled.edges \ s'.edges).size = 2 := by
    rw [hleft]
    decide +kernel
  rw [hgone] at hhistory
  exact ⟨hstored, s', hr, hforgotten, hkeys, hhistory⟩

end Store
end CodeGraph
