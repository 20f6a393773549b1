import Mathlib.Data.List.Basic
import CodeGraph.Proofs.Agent.Visibility
import CodeGraph.Proofs.Graph.Imports
import CodeGraph.Proofs.Graph.Merging
/-!
Which part of a graph a request gets: the nodes that it names, for dependency agents those one step away too, and all
edges among them. What stands in the slice is told from the graph, place by place.
-/
namespace CodeGraph

/-- A node as a request sees a stored one: only vulnerabilities and smells may be cleared, for want of a capability. -/
structure Node.Shows (r : ContextRequest) (shown stored : Node) : Prop where
  rest : shown.withoutVulnerabilities.withoutSmells = stored.withoutVulnerabilities.withoutSmells
  vulnerabilities : shown.analysis.vulnerabilities =
    if Lacks r.capabilities "security" then ∅ else stored.analysis.vulnerabilities
  smells : shown.analysis.smells = if Lacks r.capabilities "refactoring" then ∅ else stored.analysis.smells

theorem Store.redact_shows (r : ContextRequest) (n : Node) : (redact r n).Shows r n := by
  refine ⟨rfl, ?_, ?_⟩
  · by_cases hlacks : Lacks r.capabilities "security"
    · have hblind : r.seesSecurity = false := (lacks_iff _ _).mp hlacks
      simp only [redact, hblind, Bool.false_eq_true, if_false, if_pos hlacks]
    · have hsees : r.seesSecurity = true := by rwa [lacks_iff, Bool.not_eq_false] at hlacks
      simp only [redact, hsees, if_true, if_neg hlacks]
  · by_cases hlacks : Lacks r.capabilities "refactoring"
    · have hblind : r.seesSmells = false := (lacks_iff _ _).mp hlacks
      simp only [redact, hblind, Bool.false_eq_true, if_false, if_pos hlacks]
    · have hsees : r.seesSmells = true := by rwa [lacks_iff, Bool.not_eq_false] at hlacks
      simp only [redact, hsees, if_true, if_neg hlacks]

namespace ContextRequest

theorem seesNeighbours_iff (r : ContextRequest) : r.seesNeighbours = true ↔
    ¬ (Lacks r.capabilities "dependencies" ∧ Lacks r.capabilities "dependency-analysis") := by
  simp only [seesNeighbours, dependencyCapabilities, lacks_iff, List.any_cons, List.any_nil, Bool.or_false]
  cases hasCapability r.capabilities "dependencies" <;> simp

end ContextRequest

namespace Store

/-- A stored node that a request names. -/
def Requested (s : Store) (r : ContextRequest) (id : String) : Prop :=
  s.contains id = true ∧ (id ∈ r.requiredContext ∨ id ∈ r.relevantFiles)

/-- What is one step away from a node: what the node lists, and the ends of every edge that touches it. -/
def OneStep (s : Store) (a id : String) : Prop :=
  (∃ n, s.node? a = some n ∧ (id ∈ n.dependencies ∨ id ∈ n.relationships.imports ∨ id ∈ n.relationships.uses ∨
    id ∈ n.relationships.usedBy)) ∨
  ∃ x y, s.Joins x y ∧ (a = x ∨ a = y) ∧ (id = x ∨ id = y)

/-- The nodes that a request gets. -/
def Reaches (s : Store) (r : ContextRequest) (id : String) : Prop :=
  s.Requested r id ∨
  ¬ (Lacks r.capabilities "dependencies" ∧ Lacks r.capabilities "dependency-analysis") ∧
    s.contains id = true ∧ ∃ a, s.Requested r a ∧ s.OneStep a id

section Reach
variable {s : Store} {r : ContextRequest} {a id : String} {e : Edge}

theorem mem_seeds : id ∈ s.seeds r ↔ s.Requested r id := by
  rw [seeds, mem_addAll, List.mem_filter, List.mem_append, Requested, and_comm]
  exact or_iff_right Std.ExtTreeSet.not_mem_empty

theorem WellFormed.mem_edgeList_iff (h : s.WellFormed) : e ∈ s.edgeList ↔ s.edge? e.source e.target = some e := by
  refine ⟨h.mem_edgeList, fun he => ?_⟩
  exact List.mem_map.mpr ⟨(e.key, e), Std.ExtTreeMap.mem_toList_iff_getElem?_eq_some.mpr he, rfl⟩

theorem WellFormed.mem_edgesOf (h : s.WellFormed) :
    e ∈ s.edgesOf a ↔ s.edge? e.source e.target = some e ∧ (a = e.source ∨ a = e.target) := by
  rw [edgesOf, List.mem_filter, h.mem_edgeList_iff]
  simp only [Edge.touches, Bool.or_eq_true, beq_iff_eq, eq_comm (b := a)]

theorem WellFormed.mem_neighbours (h : s.WellFormed) : id ∈ s.neighbours a ↔ s.contains id = true ∧ s.OneStep a id := by
  have hends : (∃ e ∈ s.edgesOf a, id = e.source ∨ id = e.target) ↔
      ∃ x y, s.Joins x y ∧ (a = x ∨ a = y) ∧ (id = x ∨ id = y) := by
    constructor
    · rintro ⟨e, he, hid⟩
      obtain ⟨hstored, htouches⟩ := h.mem_edgesOf.mp he
      exact ⟨e.source, e.target, ⟨e, hstored⟩, htouches, hid⟩
    · rintro ⟨x, y, ⟨e, he⟩, htouches, hid⟩
      obtain ⟨rfl, rfl⟩ := Prod.mk.inj (h.edge_key he)
      exact ⟨e, h.mem_edgesOf.mpr ⟨he, htouches⟩, hid⟩
  rw [neighbours, List.mem_filter, List.mem_append, and_comm, OneStep, ← hends]
  refine and_congr_right fun _ => or_congr ?_ (by simp [or_comm])
  cases s.node? a with
  | none => simp
  | some n => simp

theorem WellFormed.mem_reach (h : s.WellFormed) : id ∈ s.reach r ↔ s.Reaches r id := by
  rw [Reaches, ← r.seesNeighbours_iff, reach]
  split
  · next hsees =>
    simp only [mem_addAll, mem_seeds, List.mem_flatMap, Std.ExtTreeSet.mem_toList, h.mem_neighbours, hsees, true_and]
    refine or_congr_right ⟨?_, ?_⟩
    · rintro ⟨a, ha, hid, hstep⟩
      exact ⟨hid, a, ha, hstep⟩
    · rintro ⟨hid, a, ha, hstep⟩
      exact ⟨a, ha, hid, hstep⟩
  · next hblind => simp [mem_seeds, hblind]

theorem Reaches.stored (h : s.Reaches r id) : s.contains id = true := by
  rcases h with hrequested | ⟨-, hid, -⟩
  · exact hrequested.1
  · exact hid

/-! ### The edges among some nodes -/

/-- An edge is added if none with its ends is there. -/
def keepFirst (seen : List Edge) (e : Edge) : List Edge := if seen.any (·.key == e.key) then seen else seen ++ [e]

theorem map_key_keepFirst (seen : List Edge) (e : Edge) :
    (keepFirst seen e).map Edge.key =
      if e.key ∈ seen.map Edge.key then seen.map Edge.key else seen.map Edge.key ++ [e.key] := by
  have hseen : seen.any (·.key == e.key) = true ↔ e.key ∈ seen.map Edge.key := by simp
  unfold keepFirst
  by_cases h : e.key ∈ seen.map Edge.key
  · rw [if_pos (hseen.mpr h), if_pos h]
  · rw [if_neg (mt hseen.mp h), if_neg h, List.map_append, List.map_singleton]

theorem foldl_keepFirst_nodup (edges : List Edge) {seen : List Edge} (h : (seen.map Edge.key).Nodup) :
    ((edges.foldl keepFirst seen).map Edge.key).Nodup := by
  refine List.foldlRecOn (motive := fun seen => (seen.map Edge.key).Nodup) edges keepFirst h fun seen hseen e _ => ?_
  rw [map_key_keepFirst]
  split
  · exact hseen
  · next hnew => exact List.nodup_append.mpr ⟨hseen, List.pairwise_singleton _ _, by simpa using hnew⟩

theorem mem_map_key_foldl_keepFirst (edges seen : List Edge) (k : EdgeKey) :
    k ∈ (edges.foldl keepFirst seen).map Edge.key ↔ k ∈ seen.map Edge.key ∨ k ∈ edges.map Edge.key := by
  induction edges generalizing seen with
  | nil => simp
  | cons e rest ih =>
    rw [List.foldl_cons, ih, map_key_keepFirst, List.map_cons, List.mem_cons, ← or_assoc]
    split
    · next hold =>
      refine or_congr_left (or_iff_left_of_imp ?_).symm
      rintro rfl
      exact hold
    · rw [List.mem_append, List.mem_singleton]

theorem foldl_keepFirst_subset (edges : List Edge) : edges.foldl keepFirst [] ⊆ edges := by
  refine List.foldlRecOn (motive := fun seen => seen ⊆ edges) edges keepFirst (List.nil_subset _) fun seen hseen e he => ?_
  unfold keepFirst
  split
  · exact hseen
  · exact List.append_subset.mpr ⟨hseen, by simpa using he⟩

theorem edgesAmong_eq (s : Store) (ids : StringSet) : s.edgesAmong ids =
    ((ids.toList.flatMap s.edgesOf).filter fun e => ids.contains e.source && ids.contains e.target).foldl keepFirst [] :=
  rfl

theorem edgesAmong_nodup (s : Store) (ids : StringSet) : ((s.edgesAmong ids).map Edge.key).Nodup := by
  rw [edgesAmong_eq]
  exact foldl_keepFirst_nodup _ List.nodup_nil

/-- An edge with both ends among the nodes is met at either end, and the only one with its ends that is met. -/
theorem WellFormed.mem_edgesAmong (h : s.WellFormed) {ids : StringSet} :
    e ∈ s.edgesAmong ids ↔ s.edge? e.source e.target = some e ∧ e.source ∈ ids ∧ e.target ∈ ids := by
  have hinside : ∀ {e}, e ∈ (ids.toList.flatMap s.edgesOf).filter
      (fun e => ids.contains e.source && ids.contains e.target) ↔
      s.edge? e.source e.target = some e ∧ e.source ∈ ids ∧ e.target ∈ ids := by
    intro e
    simp only [List.mem_filter, List.mem_flatMap, Std.ExtTreeSet.mem_toList, h.mem_edgesOf, Bool.and_eq_true,
      Std.ExtTreeSet.contains_iff_mem]
    constructor
    · rintro ⟨⟨a, -, hstored, -⟩, hends⟩
      exact ⟨hstored, hends⟩
    · rintro ⟨hstored, hends⟩
      exact ⟨⟨e.source, hends.1, hstored, Or.inl rfl⟩, hends⟩
  rw [edgesAmong_eq]
  constructor
  · exact fun he => hinside.mp (foldl_keepFirst_subset _ he)
  · intro he
    obtain ⟨e', he', hkey⟩ := List.mem_map.mp
      ((mem_map_key_foldl_keepFirst _ [] e.key).mpr (Or.inr (List.mem_map_of_mem (hinside.mpr he))))
    obtain ⟨hstored, -⟩ := hinside.mp (foldl_keepFirst_subset _ he')
    obtain ⟨hsource, htarget⟩ := Prod.mk.inj hkey
    rw [hsource, htarget, he.1] at hstored
    rwa [Option.some.inj hstored]

/-! ### The slice -/

/-- A map made of entries with different keys holds just these. -/
theorem getElem?_ofList_iff {α : Type} {entries : List (String × α)} (h : (entries.map (·.1)).Nodup) {k : String}
    {v : α} : (Std.ExtTreeMap.ofList entries)[k]? = some v ↔ (k, v) ∈ entries := by
  have hkeys : entries.Pairwise fun a b => ¬ compare a.1 b.1 = .eq :=
    (List.pairwise_map.mp h).imp fun hne heq => hne (Std.compare_eq_iff_eq.mp heq)
  have hfound : ∀ {w}, (k, w) ∈ entries → (Std.ExtTreeMap.ofList entries)[k]? = some w :=
    fun hw => Std.ExtTreeMap.getElem?_ofList_of_mem (Std.compare_eq_iff_eq.mpr rfl) hkeys hw
  refine ⟨fun hv => ?_, hfound⟩
  cases hk : (entries.map (·.1)).contains k with
  | false =>
    rw [Std.ExtTreeMap.getElem?_ofList_of_contains_eq_false hk] at hv
    cases hv
  | true =>
    obtain ⟨⟨k, w⟩, hw, rfl⟩ := List.mem_map.mp (List.contains_iff_mem.mp hk)
    rw [hfound hw] at hv
    rwa [← Option.some.inj hv]

theorem toList_sorted (ids : StringSet) : ids.toList.Pairwise (· < ·) :=
  ids.ordered_toList.imp fun h => compareOfLessAndEq_eq_lt.mp h

/-- The stored nodes that a request gets, each with its id. -/
def reached (s : Store) (r : ContextRequest) : List (String × Node) :=
  (s.reach r).toList.filterMap fun id => (s.node? id).map fun n => (id, n)

theorem WellFormed.mem_reached (h : s.WellFormed) {n : Node} :
    (id, n) ∈ s.reached r ↔ s.Reaches r id ∧ s.node? id = some n := by
  simp [reached, List.mem_filterMap, h.mem_reach]

theorem WellFormed.map_fst_reached (h : s.WellFormed) (r : ContextRequest) :
    (s.reached r).map (·.1) = (s.reach r).toList := by
  rw [reached, List.map_filterMap]
  refine (List.filterMap_congr fun id hid => ?_).trans List.filterMap_some
  have hstored := (h.mem_reach.mp (Std.ExtTreeSet.mem_toList.mp hid)).stored
  obtain ⟨n, hn⟩ := Option.isSome_iff_exists.mp (contains_eq s id ▸ hstored)
  rw [hn]
  rfl

section Slice
variable {n : Node}

theorem WellFormed.map_id_nodes (h : s.WellFormed) (r : ContextRequest) :
    (s.contextSlice r).nodes.map (·.id) = (s.reach r).toList := by
  have hnodes : (s.contextSlice r).nodes = (s.reached r).map fun e => redact r e.2 := rfl
  rw [← h.map_fst_reached, hnodes, List.map_map]
  refine List.map_congr_left fun entry hentry => ?_
  have hid : entry.2.id = entry.1 := h.node_id (h.mem_reached.mp hentry).2
  exact hid

theorem WellFormed.mem_nodes (h : s.WellFormed) :
    n ∈ (s.contextSlice r).nodes ↔ ∃ m, s.Reaches r m.id ∧ s.node? m.id = some m ∧ redact r m = n := by
  have hnodes : (s.contextSlice r).nodes = (s.reached r).map fun e => redact r e.2 := rfl
  rw [hnodes, List.mem_map]
  constructor
  · rintro ⟨⟨id, m⟩, hm, hshown⟩
    obtain ⟨hreaches, hstored⟩ := h.mem_reached.mp hm
    obtain rfl : m.id = id := h.node_id hstored
    exact ⟨m, hreaches, hstored, hshown⟩
  · rintro ⟨m, hreaches, hstored, hshown⟩
    exact ⟨(m.id, m), h.mem_reached.mpr ⟨hreaches, hstored⟩, hshown⟩

theorem WellFormed.shows_of_mem (h : s.WellFormed) (hn : n ∈ (s.contextSlice r).nodes) :
    ∃ m, s.node? n.id = some m ∧ n.Shows r m := by
  obtain ⟨m, -, hstored, rfl⟩ := h.mem_nodes.mp hn
  exact ⟨m, hstored, redact_shows r m⟩

theorem WellFormed.metrics_getElem? (h : s.WellFormed) {m : Metrics} :
    (s.contextSlice r).metrics[id]? = some m ↔ s.Reaches r id ∧ (s.node? id).map (·.metrics) = some m := by
  have hmetrics : (s.contextSlice r).metrics = .ofList ((s.reached r).map fun e => (e.1, e.2.metrics)) := rfl
  have hkeys : (((s.reached r).map fun e => (e.1, e.2.metrics)).map (·.1)).Nodup := by
    rw [List.map_map]
    exact h.map_fst_reached r ▸ (toList_sorted _).imp String.ne_of_lt
  rw [hmetrics, getElem?_ofList_iff hkeys]
  simp only [List.mem_map, Prod.exists, h.mem_reached, Prod.mk.injEq, Option.map_eq_some_iff]
  constructor
  · rintro ⟨_, n, ⟨hreaches, hstored⟩, rfl, hm⟩
    exact ⟨hreaches, n, hstored, hm⟩
  · rintro ⟨hreaches, n, hstored, hm⟩
    exact ⟨id, n, ⟨hreaches, hstored⟩, rfl, hm⟩

theorem WellFormed.mem_suggestions (h : s.WellFormed) {text : String} :
    text ∈ (s.contextSlice r).suggestions ↔
      ∃ id n, s.Reaches r id ∧ s.node? id = some n ∧ text ∈ suggestionsFor r n := by
  have hsuggestions : (s.contextSlice r).suggestions =
      (addAll ∅ ((s.reached r).flatMap fun e => suggestionsFor r e.2)).toList := rfl
  rw [hsuggestions, Std.ExtTreeSet.mem_toList, mem_addAll, List.mem_flatMap]
  simp only [Std.ExtTreeSet.not_mem_empty, false_or, Prod.exists, h.mem_reached, and_assoc]

theorem WellFormed.mem_relationships (h : s.WellFormed) :
    e ∈ (s.contextSlice r).relationships ↔
      s.edge? e.source e.target = some e ∧ s.Reaches r e.source ∧ s.Reaches r e.target := by
  have hrelationships : (s.contextSlice r).relationships = s.edgesAmong (s.reach r) := rfl
  rw [hrelationships, h.mem_edgesAmong, h.mem_reach, h.mem_reach]

end Slice
end Reach

/-- A request gets the part of the graph that its nodes induce: the nodes in order of their ids, each once and as
stored but for vulnerabilities and smells that it may not see, the metrics of these nodes, and the edges among them,
each once. -/
theorem contextSlice_induced {s : Store} (h : s.WellFormed) (r : ContextRequest) :
    let slice := s.contextSlice r
    (slice.nodes.map (·.id)).Pairwise (· < ·) ∧
    (∀ id, id ∈ slice.nodes.map (·.id) ↔ s.Reaches r id) ∧
    (∀ n ∈ slice.nodes, ∃ m, s.node? n.id = some m ∧ n.Shows r m) ∧
    (∀ id m, slice.metrics[id]? = some m ↔ s.Reaches r id ∧ (s.node? id).map (·.metrics) = some m) ∧
    (slice.relationships.map Edge.key).Nodup ∧
    ∀ e, e ∈ slice.relationships ↔
      s.edge? e.source e.target = some e ∧ s.Reaches r e.source ∧ s.Reaches r e.target := by
  intro slice
  refine ⟨?_, fun id => ?_, fun n hn => h.shows_of_mem hn, fun id m => h.metrics_getElem?,
    edgesAmong_nodup s (s.reach r), fun e => h.mem_relationships⟩
  · rw [h.map_id_nodes]
    exact toList_sorted _
  · rw [h.map_id_nodes, Std.ExtTreeSet.mem_toList, h.mem_reach]

/-- A file with two imports, one of which leads on to another node, with an edge to itself and one to nothing. -/
def branching : List (Time × GraphUpdate) :=
  let now : Time := ⟨⟨2024, 1, 1⟩, 43200, 0⟩
  let edge (source target : String) : Time × GraphUpdate :=
    (now, .upsertEdge (.obj [("from", .str source), ("to", .str target)]))
  [(now, .dependencies ⟨"main", ["db", "log"]⟩ .null), (now, .upsertNode (.obj [("id", .str "os"), ("type", .str "file")])),
    edge "log" "os", edge "main" "main", edge "main" "ghost"]

def browsing : ContextRequest :=
  { capabilities := ["Dependencies"], requiredContext := ["ghost", "main"], relevantFiles := ["main"] }

/-- One step is followed and no second one, and what is not stored is left out. -/
theorem branching_induced :
    let s := (empty none).updated branching
    s.WellFormed ∧ ¬ s.Reaches browsing "os" ∧ ¬ s.Reaches browsing "ghost" ∧
    (s.contextSlice browsing).nodes.map (·.id) = ["db", "log", "main"] ∧
    (s.contextSlice browsing).relationships.map Edge.key = [("main", "db"), ("main", "log"), ("main", "main")] := by
  intro s
  have hw : s.WellFormed := updated_wellFormed none branching
  have hids : (s.contextSlice browsing).nodes.map (·.id) = ["db", "log", "main"] := by decide +kernel
  obtain ⟨-, hreaches, -⟩ := contextSlice_induced hw browsing
  refine ⟨hw, ?_, ?_, hids, by decide +kernel⟩
  · rw [← hreaches, hids]
    decide
  · rw [← hreaches, hids]
    decide

end Store
end CodeGraph
