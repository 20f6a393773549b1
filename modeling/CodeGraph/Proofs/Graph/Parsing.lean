import CodeGraph.Graph.Payload
import CodeGraph.Update.Analysis
import CodeGraph.Proofs.Batch.Plan
import CodeGraph.Proofs.Number.Range
import CodeGraph.Proofs.Project.Reading
/-!
What the readers of payloads vouch for: the ids, ends and paths that they give out are trimmed or at least not empty,
and the weight of an edge is finite and not negative.
-/
namespace CodeGraph

theorem eventPath_trimmed {data : Json} {path : String} (h : eventPath data = .ok path) : Text.IsTrimmed path := by
  unfold eventPath at h
  split at h
  · next p hp =>
    cases h
    obtain ⟨_, -, ht⟩ := Option.bind_eq_some_iff.mp hp
    exact Text.trimmed?_isTrimmed ht
  · cases h

theorem Payload.requiredText_trimmed {members : List (String × Json)} {what field text : String}
    (h : requiredText members what field = .ok text) : Text.IsTrimmed text := by
  unfold requiredText at h
  split at h
  · next s hs =>
    cases h
    obtain ⟨_, -, ht⟩ := Option.bind_eq_some_iff.mp hs
    exact Text.trimmed?_isTrimmed ht
  · cases h

/-- Where the parts of a patch stand. -/
structure NodePatch.Parts (members : List (String × Json)) (p : NodePatch) : Prop where
  id : Payload.requiredText members "node" "id" = .ok p.id
  kind : Payload.requiredText members "node" "type" = .ok p.kind
  dependencies : Payload.optional members "dependencies" (Payload.stringSet "dependencies") = .ok p.dependencies
  relationships : ∃ sets, Payload.optional members "relationships" Payload.relationships = .ok sets ∧
    p.relationships = sets.getD []
  analysis : Payload.optional members "analysis" (Payload.typed "analysis" Annotations.read) = .ok p.analysis

theorem NodePatch.parse_parts {data : Json} {p : NodePatch} (h : parse data = .ok p) :
    ∃ members, data = .obj members ∧ p.Parts members := by
  cases data with
  | obj members =>
    obtain ⟨id, hid, h⟩ := bind_ok_inv h
    obtain ⟨kind, hkind, h⟩ := bind_ok_inv h
    obtain ⟨name, -, h⟩ := bind_ok_inv h
    obtain ⟨path, -, h⟩ := bind_ok_inv h
    obtain ⟨dependencies, hdependencies, h⟩ := bind_ok_inv h
    obtain ⟨metrics, -, h⟩ := bind_ok_inv h
    obtain ⟨relationships, hrelationships, h⟩ := bind_ok_inv h
    obtain ⟨context, -, h⟩ := bind_ok_inv h
    obtain ⟨analysis, hanalysis, h⟩ := bind_ok_inv h
    cases h
    exact ⟨members, rfl, hid, hkind, hdependencies, ⟨relationships, hrelationships, rfl⟩, hanalysis⟩
  | _ => cases h

theorem NodePatch.parse_id {data : Json} {p : NodePatch} (h : parse data = .ok p) : Text.IsTrimmed p.id := by
  obtain ⟨members, -, hparts⟩ := parse_parts h
  exact Payload.requiredText_trimmed hparts.id

theorem NodePatch.parse_kind {data : Json} {p : NodePatch} (h : parse data = .ok p) : Text.IsTrimmed p.kind := by
  obtain ⟨members, -, hparts⟩ := parse_parts h
  exact Payload.requiredText_trimmed hparts.kind

namespace Edge

/-- An edge between ids that are not empty, of a finite weight that is not negative. -/
structure Valid (e : Edge) : Prop where
  source : e.source ≠ ""
  target : e.target ≠ ""
  finite : e.weight.isFinite = true
  nonneg : 0 ≤ e.weight

theorem one_weight : (1 : Float).isFinite = true ∧ (0 : Float) ≤ 1 := by decide

theorem edgeWeight_range {members : List (String × Json)} {w : Float} (h : Payload.edgeWeight members = .ok w) :
    w.isFinite = true ∧ ¬ w < 0 := by
  unfold Payload.edgeWeight at h
  split at h
  · cases h
    decide
  · split at h
    · cases h
    · split at h
      · cases h
      · next hw =>
        cases h
        simpa only [Bool.or_eq_true, Bool.not_eq_true', decide_eq_true_eq, not_or, Bool.not_eq_false] using hw

theorem edgeWeight_valid {members : List (String × Json)} {w : Float} (h : Payload.edgeWeight members = .ok w) :
    w.isFinite = true ∧ 0 ≤ w := by
  obtain ⟨hfinite, hnonneg⟩ := edgeWeight_range h
  exact ⟨hfinite, float_le_of_not_lt hfinite rfl hnonneg⟩

/-- Where the parts of an edge stand. -/
structure Parts (members : List (String × Json)) (e : Edge) : Prop where
  source : Payload.requiredText members "edge" "from" = .ok e.source
  target : Payload.requiredText members "edge" "to" = .ok e.target
  weight : Payload.edgeWeight members = .ok e.weight
  details : ∃ details, Payload.optional members "metadata" (Payload.typed "metadata" EdgeDetails.read) = .ok details ∧
    e.details = details.getD {}

theorem parse_parts {data : Json} {e : Edge} (h : parse data = .ok e) :
    ∃ members, data = .obj members ∧ e.Parts members := by
  cases data with
  | obj members =>
    obtain ⟨source, hsource, h⟩ := bind_ok_inv h
    obtain ⟨target, htarget, h⟩ := bind_ok_inv h
    obtain ⟨kind, -, h⟩ := bind_ok_inv h
    obtain ⟨weight, hweight, h⟩ := bind_ok_inv h
    obtain ⟨details, hdetails, h⟩ := bind_ok_inv h
    cases h
    exact ⟨members, rfl, hsource, htarget, hweight, details, hdetails, rfl⟩
  | _ => cases h

theorem parse_ends {data : Json} {e : Edge} (h : parse data = .ok e) :
    Text.IsTrimmed e.source ∧ Text.IsTrimmed e.target ∧ e.weight.isFinite = true ∧ 0 ≤ e.weight := by
  obtain ⟨members, -, hparts⟩ := parse_parts h
  exact ⟨Payload.requiredText_trimmed hparts.source, Payload.requiredText_trimmed hparts.target,
    edgeWeight_valid hparts.weight⟩

theorem parse_valid {data : Json} {e : Edge} (h : parse data = .ok e) : e.Valid := by
  obtain ⟨hsource, htarget, hfinite, hnonneg⟩ := parse_ends h
  exact ⟨hsource.nonempty, htarget.nonempty, hfinite, hnonneg⟩

theorem ofEnds_valid {source target : String} (hsource : source ≠ "") (htarget : target ≠ "") (kind : String) :
    (ofEnds source target kind).Valid :=
  ⟨hsource, htarget, one_weight.1, one_weight.2⟩

end Edge

theorem AnalysisUpdate.parse_path {now : Time} {data : Json} {u : AnalysisUpdate} (h : parse now data = .ok u) :
    Text.IsTrimmed u.path := by
  obtain ⟨path, hpath, h⟩ := bind_ok_inv h
  split at h
  · cases h
  · cases h
    exact eventPath_trimmed hpath

theorem DependencyChange.parse_path {data : Json} {c : DependencyChange} (h : parse data = .ok c) :
    Text.IsTrimmed c.path := by
  obtain ⟨path, hpath, h⟩ := bind_ok_inv h
  split at h
  · cases h
  · cases h
    exact eventPath_trimmed hpath

/-- A change of what a file imports in which neither the file nor an import has an empty id. -/
structure DependencyChange.Named (c : DependencyChange) : Prop where
  path : c.path ≠ ""
  dependencies : ∀ d ∈ c.dependencies, d ≠ ""

theorem DependencyChange.parse_named {data : Json} {c : DependencyChange} (h : parse data = .ok c) : c.Named := by
  refine ⟨(parse_path h).nonempty, ?_⟩
  obtain ⟨path, -, h⟩ := bind_ok_inv h
  split at h
  · cases h
  · cases h
    rintro d hd rfl
    simp [Text.trimmed?, Text.trim, Text.trimChars, Text.trimStart, Text.dropEndWhile] at hd

namespace ProjectUpdate

/-- No file and no source of a report has an empty path, and no source imports one. -/
structure Named (u : ProjectUpdate) : Prop where
  files : ∀ path ∈ u.files, path ≠ ""
  dependencies : ∀ source ∈ u.dependencies.toList, (DependencyChange.mk source.1 source.2).Named

theorem parse_named (now : Time) (root : String) (payload : Json) : (parse now root payload).Named := by
  constructor
  · exact fun path hpath => (parse_files hpath).contained.ne_empty
  · intro source hsource
    obtain ⟨hpath, htargets⟩ := parse_dependencies hsource
    exact ⟨hpath.contained.ne_empty, fun target htarget => (htargets target htarget).contained.ne_empty⟩

end ProjectUpdate
end CodeGraph
