import CodeGraph.ErrorReport.Basic
import CodeGraph.Proofs.ErrorReport.Paths
import CodeGraph.Proofs.Graph.Repeated
/-!
The nodes that an error affects: those it is reported for, as they are reported, and then the other ones whose files it
refers to. So a node is listed twice just if it is reported twice.
-/
namespace CodeGraph

namespace ErrorReport

/-- A file that a report refers to: one that its stack trace names, or the one of its location in normal form. -/
def Names (r : ErrorReport) (file : String) : Prop :=
  file ∈ Reference.ofStack r.stackTrace ∨ ∃ place, r.context.file = some place ∧ file = Reference.normalize place

theorem mem_references {r : ErrorReport} {file : String} : file ∈ r.references ↔ r.Names file := by
  rw [references, List.mem_append, Option.mem_toList, Option.map_eq_some_iff, Names]
  exact or_congr_right (exists_congr fun place => and_congr_right fun _ => eq_comm)

theorem refersTo_iff {r : ErrorReport} {n : Node} : r.refersTo n = true ↔
    ∃ file, r.Names file ∧ (Reference.pathMatches n.path file = true ∨ Reference.pathMatches n.id file = true) := by
  simp only [refersTo, List.any_eq_true, mem_references, Bool.or_eq_true]

end ErrorReport

namespace ErrorAnalysis
open Store
variable {s : Store} {r : ErrorReport} {id : String}

/-- The ids of the nodes that a report refers to. -/
def inferred (r : ErrorReport) (s : Store) : List String := (s.nodeList.filter r.refersTo).map (·.id)

theorem affected_eq (r : ErrorReport) (s : Store) :
    affected r s = r.relatedNodes ++ (inferred r s).filter fun id => !r.relatedNodes.contains id := rfl

theorem inferred_sorted (h : s.WellFormed) (r : ErrorReport) : (inferred r s).Pairwise (· < ·) :=
  h.nodeList_sorted.sublist (List.filter_sublist.map _)

theorem mem_inferred (h : s.WellFormed) : id ∈ inferred r s ↔ ∃ n file, s.node? id = some n ∧ r.Names file ∧
    (Reference.pathMatches n.path file = true ∨ Reference.pathMatches n.id file = true) := by
  simp only [inferred, List.mem_map, List.mem_filter, h.mem_nodeList_iff, ErrorReport.refersTo_iff, exists_and_left]
  constructor
  · rintro ⟨n, ⟨hn, hrefers⟩, rfl⟩
    exact ⟨n, hn, hrefers⟩
  · rintro ⟨n, hn, hrefers⟩
    obtain rfl : n.id = id := h.node_id hn
    exact ⟨n, ⟨hn, hrefers⟩, rfl⟩

/-- An error affects the nodes it is reported for, in the order of the report, and then, in order of their ids, the
other nodes whose path or id is one of the files that it refers to; each is listed once if none is reported twice, and
only then. A location counts in its normal form, which matches the same paths as the location itself, unless the `./`
taken off it has hidden a `file://`. -/
theorem affected_once_iff (h : s.WellFormed) (now : Time) (r : ErrorReport) (anomalies : List String) :
    let affected := (ofReport now r s anomalies).affectedNodes
    (∃ others, affected = r.relatedNodes ++ others ∧ others.Pairwise (· < ·) ∧ ∀ id ∈ others, id ∉ r.relatedNodes) ∧
    (∀ id, id ∈ affected ↔ id ∈ r.relatedNodes ∨ ∃ n file, s.node? id = some n ∧ r.Names file ∧
      (Reference.pathMatches n.path file = true ∨ Reference.pathMatches n.id file = true)) ∧
    (∀ place, ¬ "file://".toList <+: (Reference.normalize place).toList →
      ∀ stored, Reference.pathMatches stored (Reference.normalize place) = Reference.pathMatches stored place) ∧
    (affected.Nodup ↔ r.relatedNodes.Nodup) := by
  intro affected
  let others := (inferred r s).filter fun id => !r.relatedNodes.contains id
  have heq : affected = r.relatedNodes ++ others := affected_eq r s
  have hsorted : others.Pairwise (· < ·) := (inferred_sorted h r).filter _
  have hnew : ∀ id ∈ others, id ∉ r.relatedNodes := by
    intro id hid
    simpa using (List.mem_filter.mp hid).2
  refine ⟨⟨others, heq, hsorted, hnew⟩, fun id => ?_, fun place => Reference.pathMatches_normalize, ?_⟩
  · have hothers : id ∈ others ↔ id ∈ inferred r s ∧ id ∉ r.relatedNodes := by simp [others]
    rw [← mem_inferred h, heq, List.mem_append, hothers]
    tauto
  · rw [heq, List.nodup_append]
    refine ⟨fun hnodup => hnodup.1, fun hnodup => ⟨hnodup, hsorted.imp String.ne_of_lt, ?_⟩⟩
    rintro id hid _ hid' rfl
    exact hnew id hid' hid

/-- A trace through two files, one of which the report lists already, and a location in a third one. -/
def traced : ErrorReport :=
  { errorId := "e1", errorType := "TypeError", severity := "error", suggestedFixes := []
    stackTrace := ["File \"/srv/app/log.py\", line 3", "at run (/srv/app/db.py:10:5)"]
    context := { file := some "./src/main.ts" }
    relatedNodes := ["notes", "log.py"] }

/-- Four files, and nothing between them. -/
def filed : List (Time × GraphUpdate) :=
  ["src/main.ts", "db.py", "notes", "log.py"].map fun id =>
    (noon, .upsertNode (.obj [("id", .str id), ("type", .str "file")]))

theorem traced_affected :
    let s := (Store.empty none).updated filed
    let affected := (ofReport noon traced s []).affectedNodes
    s.WellFormed ∧ affected = ["notes", "log.py", "db.py", "src/main.ts"] ∧ affected.Nodup ∧
    ∃ n file, s.node? "db.py" = some n ∧ traced.Names file ∧
      (Reference.pathMatches n.path file = true ∨ Reference.pathMatches n.id file = true) := by
  intro s affected
  have hw : s.WellFormed := updated_wellFormed none filed
  have hlist : affected = ["notes", "log.py", "db.py", "src/main.ts"] := by decide +kernel
  obtain ⟨-, hmem, -, honce⟩ := affected_once_iff hw noon traced []
  have hdb : "db.py" ∈ affected := hlist ▸ by decide
  exact ⟨hw, hlist, honce.mpr (by decide), ((hmem "db.py").mp hdb).resolve_left (by decide)⟩

/-- A report that names one node twice affects it twice. -/
theorem repeated_twice :
    let report := ErrorReport.parse "" (.obj [("errorId", .str "e"), ("errorType", .str "t"),
      ("relatedNodes", .arr [.str "a", .str "a"])])
    let affected := (ofReport noon report.value (.empty none) report.anomalies).affectedNodes
    report.anomalies = [] ∧ affected = ["a", "a"] ∧ ¬ affected.Nodup := by
  intro report affected
  have hlist : affected = ["a", "a"] := by decide +kernel
  exact ⟨by decide +kernel, hlist, hlist ▸ by decide⟩

end ErrorAnalysis
end CodeGraph
