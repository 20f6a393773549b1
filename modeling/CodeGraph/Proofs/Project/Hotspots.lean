import CodeGraph.Project.Insights
import CodeGraph.Proofs.Graph.Update
import CodeGraph.Proofs.List.Ranked
import CodeGraph.Proofs.Number.Place
/-!
The hotspots of a project. They are the first of the complex nodes in an order without ties, so they are the same in
whatever order the nodes are gone through.
-/
namespace CodeGraph

namespace Hotspot
variable {a b : Hotspot}

/-- Which of two hotspots goes first: the more complex one, and of two equally complex ones that with the lesser id. -/
def Precedes (a b : Hotspot) : Prop :=
  b.complexity < a.complexity ∨ (a.complexity == b.complexity) = true ∧ a.id < b.id

/-- Where a hotspot stands in this order. -/
def rank (a : Hotspot) : (Nat ×ₗ Int ×ₗ Nat)ᵒᵈ ×ₗ String := placeDown a.complexity a.id

theorem before_eq (ha : 0 < a.complexity) (hb : 0 < b.complexity) : before a b = decide (a.rank ≤ b.rank) :=
  (unsigned_of_pos ha).placeDown_le_iff (unsigned_of_pos hb)

theorem rank_lt_iff_precedes (ha : 0 < a.complexity) (hb : 0 < b.complexity) : a.rank < b.rank ↔ a.Precedes b :=
  (unsigned_of_pos ha).placeDown_lt_iff (unsigned_of_pos hb)

end Hotspot

namespace Store
variable {s : Store} {nodes : List Node} {a b : Hotspot}

/-- A node as a hotspot. What depends on it is counted among its users and along the edges, and the greater number is
taken. -/
def spot (s : Store) (n : Node) : Hotspot :=
  ⟨n.id, n.metrics.complexity, n.metrics.risk (max n.relationships.usedBy.size (s.inDegree n.id))⟩

def spots (s : Store) (nodes : List Node) : List Hotspot :=
  (nodes.filter fun n => n.metrics.complexity > 0).map s.spot

/-- The hotspots, if the nodes are gone through in this order. -/
def hotspotsOf (s : Store) (nodes : List Node) : List Hotspot :=
  ((s.spots nodes).mergeSort Hotspot.before).take hotspotLimit

theorem mem_spots : a ∈ s.spots nodes ↔ ∃ n ∈ nodes, 0 < n.metrics.complexity ∧ s.spot n = a := by
  simp only [spots, List.mem_map, List.mem_filter, decide_eq_true_iff, gt_iff_lt, and_assoc]

theorem complexity_of_mem_spots (ha : a ∈ s.spots nodes) : 0 < a.complexity := by
  obtain ⟨n, -, hcomplex, rfl⟩ := mem_spots.mp ha
  exact hcomplex

theorem spots_ids_nodup (hnodup : (nodes.map (·.id)).Nodup) : ((s.spots nodes).map (·.id)).Nodup := by
  rw [spots, List.map_map]
  exact hnodup.sublist (List.filter_sublist.map _)

theorem spots_rank_inj (hnodup : (nodes.map (·.id)).Nodup) :
    ∀ a ∈ s.spots nodes, ∀ b ∈ s.spots nodes, a.rank = b.rank → a = b :=
  fun _ ha _ hb heq => List.inj_on_of_nodup_map (spots_ids_nodup hnodup) ha hb (congrArg (fun r => (ofLex r).2) heq)

theorem mergeSort_spots : (s.spots nodes).mergeSort Hotspot.before =
    (s.spots nodes).mergeSort fun a b => a.rank ≤ b.rank :=
  mergeSort_eq_of_rank Hotspot.rank fun _ ha _ hb =>
    Hotspot.before_eq (complexity_of_mem_spots ha) (complexity_of_mem_spots hb)

theorem sorted_precedes (hnodup : (nodes.map (·.id)).Nodup) :
    ((s.spots nodes).mergeSort Hotspot.before).Pairwise Hotspot.Precedes := by
  have hsorted : ((s.spots nodes).mergeSort fun a b => a.rank ≤ b.rank).Pairwise fun a b => a.rank < b.rank :=
    pairwise_mergeSort_lt _ (List.Nodup.of_map _ (spots_ids_nodup hnodup)) (spots_rank_inj hnodup)
  rw [mergeSort_spots]
  refine hsorted.imp_of_mem fun ha hb hlt => ?_
  rw [List.mem_mergeSort] at ha hb
  exact (Hotspot.rank_lt_iff_precedes (complexity_of_mem_spots ha) (complexity_of_mem_spots hb)).mp hlt

/-- What is asked of the hotspots that are listed. -/
structure ListsHotspots (s : Store) (hotspots : List Hotspot) : Prop where
  length : hotspots.length = min 5 (s.nodeList.filter fun n => n.metrics.complexity > 0).length
  stored : ∀ a ∈ hotspots, ∃ n, s.node? a.id = some n ∧ 0 < n.metrics.complexity ∧ s.spot n = a
  nodup : (hotspots.map (·.id)).Nodup
  ordered : hotspots.Pairwise Hotspot.Precedes
  first : ∀ n, s.node? n.id = some n → 0 < n.metrics.complexity → n.id ∉ hotspots.map (·.id) →
    ∀ a ∈ hotspots, a.Precedes (s.spot n)

theorem WellFormed.nodeList_nodup (h : s.WellFormed) : (s.nodeList.map (·.id)).Nodup :=
  h.nodeList_sorted.imp ne_of_lt

theorem hotspots_listed (h : s.WellFormed) : s.ListsHotspots s.hotspots := by
  have hsorted := sorted_precedes (s := s) h.nodeList_nodup
  have hperm := List.mergeSort_perm (s.spots s.nodeList) Hotspot.before
  have hhotspots : s.hotspots = ((s.spots s.nodeList).mergeSort Hotspot.before).take 5 := rfl
  rw [hhotspots]
  refine ⟨?length, ?stored, ?nodup, ?ordered, ?first⟩
  case length => rw [List.length_take, hperm.length_eq, spots, List.length_map]
  case stored =>
    intro a ha
    obtain ⟨n, hn, hcomplex, rfl⟩ := mem_spots.mp (List.mem_mergeSort.mp (List.mem_of_mem_take ha))
    exact ⟨n, h.mem_nodeList hn, hcomplex, rfl⟩
  case nodup =>
    have hnodup := (hperm.map (·.id)).nodup_iff.mpr (spots_ids_nodup h.nodeList_nodup)
    exact hnodup.sublist ((List.take_sublist _ _).map _)
  case ordered => exact hsorted.sublist (List.take_sublist _ _)
  case first =>
    intro n hn hcomplex hunlisted a ha
    have hspot : s.spot n ∈ (s.spots s.nodeList).mergeSort Hotspot.before :=
      List.mem_mergeSort.mpr (mem_spots.mpr ⟨n, h.mem_nodeList_iff.mpr hn, hcomplex, rfl⟩)
    rw [← List.take_append_drop 5 (List.mergeSort _ _), List.mem_append] at hspot
    have hdropped := hspot.resolve_left fun hlisted => hunlisted (List.mem_map_of_mem hlisted)
    rw [← List.take_append_drop 5 (List.mergeSort _ _), List.pairwise_append] at hsorted
    exact hsorted.2.2 a ha _ hdropped

theorem hotspotsOf_eq_of_perm {nodes' : List Node} (hnodup : (nodes.map (·.id)).Nodup) (h : nodes.Perm nodes') :
    s.hotspotsOf nodes' = s.hotspotsOf nodes := by
  have hspots : (s.spots nodes).Perm (s.spots nodes') := (h.filter _).map _
  rw [hotspotsOf, hotspotsOf, mergeSort_spots, mergeSort_spots, mergeSort_eq_of_perm _ hspots (spots_rank_inj hnodup)]

/-- The summary lists the first of the complex nodes, five at most, and lists them so in whatever order the nodes are
gone through. -/
theorem summarized_hotspots (h : s.WellFormed) (insights : ProjectInsights) (recentErrors : Nat) :
    s.ListsHotspots (s.summarize insights recentErrors).hotspots ∧
      ∀ nodes, nodes.Perm s.nodeList → s.hotspotsOf nodes = (s.summarize insights recentErrors).hotspots :=
  ⟨hotspots_listed h, fun _ horder => hotspotsOf_eq_of_perm h.nodeList_nodup horder.symm⟩

/-- One very complex node, five others that are equally complex, and one that is not. -/
def crowd : Store :=
  let file (id : String) (complexity : Int) : Json :=
    .obj [("id", .str id), ("metrics", .obj [("complexity", .num (.int complexity))]), ("type", .str "file")]
  let files := [file "a" 9, file "b" 4, file "c" 4, file "d" 4, file "e" 4, file "f" 4, file "main" 0]
  (empty none).updated (files.map fun data => (⟨⟨2024, 1, 1⟩, 43200, 0⟩, .upsertNode data))

theorem crowd_hotspots :
    let listed := (crowd.summarize {} 0).hotspots
    crowd.WellFormed ∧ listed.map (·.id) = ["a", "b", "c", "d", "e"] ∧
      crowd.nodeList.reverse.map (·.id) = ["main", "f", "e", "d", "c", "b", "a"] ∧
      crowd.hotspotsOf crowd.nodeList.reverse = listed ∧
      ∀ n, crowd.node? "f" = some n → ∀ a ∈ listed, a.Precedes (crowd.spot n) := by
  intro listed
  have hw : crowd.WellFormed := updated_wellFormed none _
  obtain ⟨hlists, horders⟩ := summarized_hotspots hw {} 0
  -- the nodes are stored in the order in which they are listed as hotspots
  have hsorted : (crowd.spots crowd.nodeList).Pairwise fun a b => Hotspot.before a b = true := by decide +kernel
  have hlisted : listed = (crowd.spots crowd.nodeList).take 5 :=
    congrArg (List.take 5) (List.mergeSort_of_pairwise hsorted)
  have hids : listed.map (·.id) = ["a", "b", "c", "d", "e"] := by
    rw [hlisted]
    decide +kernel
  refine ⟨hw, hids, by decide +kernel, horders _ crowd.nodeList.reverse_perm, fun n hn => hlists.first n ?_ ?_ ?_⟩
  · rwa [hw.node_id hn]
  · have hcomplex : ((crowd.node? "f").all fun n => 0 < n.metrics.complexity) = true := by decide +kernel
    rw [hn] at hcomplex
    exact of_decide_eq_true hcomplex
  · rw [hw.node_id hn, hids]
    decide

end Store
end CodeGraph
