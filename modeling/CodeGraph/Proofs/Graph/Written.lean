import CodeGraph.Proofs.Graph.Parsing
import CodeGraph.Proofs.Wire.Written
/-!
Nodes and edges as they are read and written. What was read of a payload can be written: the payload that a node is
written as asks for that very node, and the payload that an edge is written as for that edge.
-/
namespace CodeGraph
open Record Reader

theorem NodeContext.read_write (c : NodeContext) : read c.write = .ok c := by
  refine Finds.read ((((Finds.map ?_ NodeContext.mk).seq ?_).seq ?_).seq ?_) "NodeContext"
  all_goals exact .defaulted rfl (nullable_text _) none

/-- A commit whose time, if it has one, is a moment of the calendar. -/
def Commit.Timed (c : Commit) : Prop := ∀ t ∈ c.time, t.Valid

/-- A time that may be left out is a moment of the calendar, if it is there. -/
theorem time_of_defaulted {find : String → Option Json} {name : String} {o : Option Time}
    (h : Finds find (defaulted name (nullable time) none) o) {t : Time} (ht : t ∈ o) : t.Valid := by
  rcases h.of_defaulted with rfl | ⟨j, -, hj⟩
  · cases ht
  · exact time_inv (nullable_inv hj ht)

theorem Commit.read_timed {c : Commit} {j : Json} (h : read j = .ok c) : c.Timed := by
  obtain ⟨find, -, h⟩ := read_finds h
  obtain ⟨_, time, rfl, htime, h⟩ := h.of_seq
  obtain ⟨_, message, rfl, -, h⟩ := h.of_seq
  obtain ⟨_, author, rfl, -, h⟩ := h.of_seq
  obtain ⟨hash, rfl, -⟩ := h.of_map
  exact fun t ht => time_of_defaulted htime ht

theorem Commit.read_write {c : Commit} (h : c.Timed) : read c.write = .ok c := by
  refine Finds.read ((((Finds.map ?_ Commit.mk).seq ?_).seq ?_).seq ?time) "GitHistoryEntry"
  case time => exact .defaulted rfl (nullable_time h) none
  all_goals exact .defaulted rfl (nullable_text _) none

namespace Annotations

/-- Annotations all of whose times are moments of the calendar. -/
structure Timed (a : Annotations) : Prop where
  lastModified : ∀ t ∈ a.lastModified, t.Valid
  commits : ∀ c ∈ a.commits, c.Timed

theorem read_timed {a : Annotations} {j : Json} (h : read j = .ok a) : a.Timed := by
  obtain ⟨find, -, h⟩ := read_finds h
  obtain ⟨_, commits, rfl, hcommits, h⟩ := h.of_seq
  obtain ⟨_, contributors, rfl, -, h⟩ := h.of_seq
  obtain ⟨_, lastModified, rfl, hlast, h⟩ := h.of_seq
  obtain ⟨_, documentation, rfl, -, h⟩ := h.of_seq
  obtain ⟨_, suggestions, rfl, -, h⟩ := h.of_seq
  obtain ⟨_, vulnerabilities, rfl, -, h⟩ := h.of_seq
  obtain ⟨_, smells, rfl, -, h⟩ := h.of_seq
  obtain ⟨patterns, rfl, -⟩ := h.of_map
  refine ⟨fun t ht => time_of_defaulted hlast ht, fun c hc => ?_⟩
  rcases hcommits.of_defaulted with rfl | ⟨j, -, hj⟩
  · cases hc
  · obtain ⟨_, hread⟩ := list_inv hj hc
    exact Commit.read_timed hread

theorem read_write {a : Annotations} (h : a.Timed) : read a.write = .ok a := by
  refine Finds.read ((((((((Finds.map ?_ Annotations.mk).seq ?_).seq ?_).seq ?_).seq ?documentation).seq
    ?lastModified).seq ?contributors).seq ?commits) "NodeAnalysis"
  case documentation => exact .defaulted rfl (nullable_text _) none
  case lastModified => exact .defaulted rfl (nullable_time h.lastModified) none
  case contributors =>
    have hnames : list string (.ofList .str a.contributors) = .ok a.contributors := list_ofList fun _ _ => rfl
    exact .defaulted rfl hnames []
  case commits => exact .defaulted rfl (list_ofList fun c hc => Commit.read_write (h.commits c hc)) []
  all_goals exact .defaulted rfl (set_ofSet _) ∅

end Annotations

namespace EdgeDetails

/-- Details whose line number fits 32 bits and whose strength is finite. -/
structure Fits (d : EdgeDetails) : Prop where
  lineNumber : ∀ n ∈ d.lineNumber, n < Nat.pow 2 32
  strength : ∀ x ∈ d.strength, x.isFinite = true

theorem default_fits : ({} : EdgeDetails).Fits := ⟨fun _ h => (nomatch h), fun _ h => (nomatch h)⟩

theorem read_fits {d : EdgeDetails} {j : Json} (hj : j.Finite) (h : read j = .ok d) : d.Fits := by
  obtain ⟨find, hparts, h⟩ := read_finds h
  obtain ⟨_, bidirectional, rfl, -, h⟩ := h.of_seq
  obtain ⟨_, strength, rfl, hstrength, h⟩ := h.of_seq
  obtain ⟨_, context, rfl, -, h⟩ := h.of_seq
  obtain ⟨lineNumber, rfl, hline⟩ := h.of_map
  constructor
  · intro n hn
    rcases hline.of_defaulted with rfl | ⟨_, -, hread⟩
    · cases hn
    · exact natural_inv (nullable_inv hread hn)
  · intro x hx
    rcases hstrength.of_defaulted with rfl | ⟨_, hfield, hread⟩
    · cases hx
    · exact float_inv (hj.part (hparts hfield)) (nullable_inv hread hx)

theorem read_write {d : EdgeDetails} (h : d.Fits) : read d.write = .ok d := by
  refine Finds.read ((((Finds.map ?lineNumber EdgeDetails.mk).seq ?context).seq ?strength).seq ?bidirectional)
    "EdgeMetadata"
  case lineNumber =>
    exact .defaulted rfl (nullable_ofOption (fun _ => rfl) fun n hn => natural_nat _ (h.lineNumber n hn)) none
  case context => exact .defaulted rfl (nullable_text _) none
  case strength => exact .defaulted rfl (nullable_float h.strength) none
  case bidirectional =>
    have hbool : boolean (.bool d.bidirectional) = .ok d.bidirectional := rfl
    exact .defaulted rfl hbool false

end EdgeDetails

namespace Payload
variable {members : List (String × Json)} {field : String} {j : Json}

theorem requiredText_trim {what s : String} (hj : members.lookup field = some (.str s)) (h : Text.IsTrimmed s) :
    requiredText members what field = .ok s := by
  simp only [requiredText, hj, Option.bind_some, Json.str?, Text.trimmed?_eq_self_iff.mpr h]

theorem present?_of_lookup (hj : members.lookup field = some j) (hnull : j.isNull = false) :
    Json.present? members field = some j := by
  rw [Json.present?, hj, Option.filter_some, hnull]
  rfl

theorem optionalText_text {s : String} (hj : members.lookup field = some (.str s)) :
    optionalText members field = .ok (some s) := by
  simp only [optionalText, present?_of_lookup hj rfl]

theorem optional_some {α : Type} {read : Json → Except ValidationError α} {a : α} (hj : members.lookup field = some j)
    (hnull : j.isNull = false) (h : read j = .ok a) : optional members field read = .ok (some a) := by
  simp only [optional, present?_of_lookup hj hnull, h, Except.map]

theorem optional_inv {α : Type} {read : Json → Except ValidationError α} {o : Option α}
    (h : optional members field read = .ok o) {a : α} (ha : a ∈ o) :
    ∃ j, members.lookup field = some j ∧ read j = .ok a := by
  unfold optional at h
  split at h
  · cases h
    cases ha
  · next j hj =>
    obtain ⟨a', hread, rfl⟩ := map_ok_inv h
    cases ha
    exact ⟨j, (Option.filter_eq_some_iff.mp hj).1, hread⟩

theorem typed_inv {α : Type} {read : Reader α} {a : α} (h : typed field read j = .ok a) : read j = .ok a := by
  unfold typed at h
  split at h
  · next hread =>
    cases h
    exact hread
  · cases h

theorem typed_ok {α : Type} {read : Reader α} {a : α} (h : read j = .ok a) : typed field read j = .ok a := by
  simp only [typed, h]

theorem texts_map (names : List String) : texts field (names.map .str) = .ok names := by
  induction names with
  | nil => rfl
  | cons name names ih => simp only [List.map_cons, texts, ih, Except.map]

theorem stringSet_ofSet (names : StringSet) : stringSet field (.ofSet names) = .ok names := by
  simp only [stringSet, Json.ofSet, texts_map, Except.map, ofList_toList]

end Payload

namespace Metrics
variable {m : Metrics}

/-- Metrics that are in their ranges, so that setting them again does not change them. -/
def Settled (m : Metrics) : Prop := ∀ k : Metric, k.clamp (m.get k) = m.get k

theorem Settled.finite (h : m.Settled) (k : Metric) : (m.get k).isFinite = true :=
  h k ▸ (clamp_range k (m.get k)).1

theorem default_settled : ({} : Metrics).Settled := by
  intro k
  cases k <;> decide

theorem setAll_settled (h : m.Settled) (values : List (Metric × Float)) : (m.setAll values).Settled :=
  setAll_keeps (P := fun k x => k.clamp x = x) clamp_clamp h values

theorem setAll_get (h : m.Settled) (ks : List Metric) : m.setAll (ks.map fun k => (k, m.get k)) = m := by
  have hset : ∀ k, m.set k (m.get k) = m := by
    intro k
    rw [set, h k]
    cases k <;> rfl
  induction ks with
  | nil => rfl
  | cons k ks ih =>
    rw [setAll, List.map_cons, List.foldl_cons, hset, ← setAll, ih]

end Metrics

theorem Metric.ofName?_name (k : Metric) : ofName? k.name = some k := by
  cases k <;> rfl

/-- The metrics in the order in which they are written. -/
def Metrics.written : List Metric :=
  [.cognitiveComplexity, .complexity, .coverage, .cyclomaticComplexity, .halsteadDifficulty, .halsteadEffort,
    .halsteadVolume, .lines, .maintainability]

/-- Metrics that are written by their names are read as they are. -/
theorem Payload.metricMembers_floats {values : List (Metric × Float)} (h : ∀ v ∈ values, v.2.isFinite = true) :
    metricMembers (values.map fun v => (v.1.name, .float v.2)) = .ok values := by
  induction values with
  | nil => rfl
  | cons v values ih =>
    obtain ⟨hv, hvalues⟩ := List.forall_mem_cons.mp h
    have hfloat : (Json.float v.2).float? = some v.2 := by
      rw [Json.float, if_pos hv]
      rfl
    simp only [List.map_cons, metricMembers, hfloat, ih hvalues, Except.map, Metric.ofName?_name]

theorem Payload.metrics_write {m : Metrics} (h : m.Settled) :
    metrics m.write = .ok (Metrics.written.map fun k => (k, m.get k)) := by
  have hfinite : ∀ v ∈ Metrics.written.map fun k => (k, m.get k), v.2.isFinite = true := by
    intro v hv
    obtain ⟨k, -, rfl⟩ := List.mem_map.mp hv
    exact h.finite k
  exact metricMembers_floats hfinite

theorem Payload.relationships_write (r : Relationships) :
    relationships r.write = .ok (Relation.all.map fun k => (k, r.get k)) := by
  obtain ⟨members, hmembers⟩ : ∃ members, r.write = .obj members := ⟨_, rfl⟩
  have hsets : ∀ k : Relation, Json.present? members k.name = some (.ofSet (r.get k)) := by
    intro k
    cases hmembers
    cases k <;> rfl
  rw [hmembers, relationships]
  induction Relation.all with
  | nil => rfl
  | cons k ks ih => simp only [relationSets, hsets, stringSet_ofSet, ih, Except.map, List.map_cons]

theorem Relationships.foldl_put_get (r : Relationships) (ks : List Relation) :
    (ks.map fun k => (k, r.get k)).foldl (fun r s => r.put s.2 s.1) r = r := by
  have hput : ∀ k, r.put (r.get k) k = r := by
    intro k
    cases k <;> rfl
  induction ks with
  | nil => rfl
  | cons k ks ih => rw [List.map_cons, List.foldl_cons, hput, ih]

theorem NodePatch.parse_timed {data : Json} {p : NodePatch} (h : parse data = .ok p) : ∀ a ∈ p.analysis, a.Timed := by
  obtain ⟨members, -, hparts⟩ := parse_parts h
  intro a ha
  obtain ⟨j, -, htyped⟩ := Payload.optional_inv hparts.analysis ha
  exact Annotations.read_timed (Payload.typed_inv htyped)

namespace Node

/-- A node that can be read back from what it is written as. -/
structure Readable (n : Node) : Prop where
  kind : Text.IsTrimmed n.kind
  metrics : n.metrics.Settled
  analysis : n.analysis.Timed

/-- What the written form of a node asks for. -/
def patch (n : Node) : NodePatch :=
  { id := n.id, kind := n.kind, name := some n.name, path := some n.path, dependencies := some n.dependencies
    metrics := Metrics.written.map fun k => (k, n.metrics.get k)
    relationships := Relation.all.map fun k => (k, n.relationships.get k)
    context := some n.context, analysis := some n.analysis }

variable {n : Node}

theorem patch_apply (h : n.Readable) : n.patch.apply n = n := by
  simp only [NodePatch.apply, patch, Option.getD_some, Metrics.setAll_get h.metrics, Relationships.foldl_put_get]

theorem parse_write (h : n.Readable) (hid : Text.IsTrimmed n.id) : NodePatch.parse n.write = .ok n.patch := by
  simp only [NodePatch.parse, write]
  rw [ok_bind (Payload.requiredText_trim rfl hid), ok_bind (Payload.requiredText_trim rfl h.kind),
    ok_bind (Payload.optionalText_text rfl), ok_bind (Payload.optionalText_text rfl),
    ok_bind (Payload.optional_some rfl rfl (Payload.stringSet_ofSet _)),
    ok_bind (Payload.optional_some rfl rfl (Payload.metrics_write h.metrics)),
    ok_bind (Payload.optional_some rfl rfl (Payload.relationships_write _)),
    ok_bind (Payload.optional_some rfl rfl (Payload.typed_ok (NodeContext.read_write _))),
    ok_bind (Payload.optional_some rfl rfl (Payload.typed_ok (Annotations.read_write h.analysis)))]
  rfl

end Node

namespace Edge

/-- An edge that can be read back from what it is written as. -/
structure Readable (e : Edge) : Prop where
  source : e.source ≠ ""
  target : e.target ≠ ""
  finite : e.weight.isFinite = true
  nonneg : ¬ e.weight < 0
  details : e.details.Fits

variable {e : Edge}

theorem parse_readable {data : Json} (hdata : data.Finite) (h : parse data = .ok e) : e.Readable := by
  obtain ⟨members, rfl, hsource, htarget, hweight, details, hdetails, heq⟩ := parse_parts h
  obtain ⟨hfinite, hnonneg⟩ := edgeWeight_range hweight
  have hfits : (details.getD {}).Fits := by
    cases details with
    | none => exact EdgeDetails.default_fits
    | some d =>
      obtain ⟨j, hj, htyped⟩ := Payload.optional_inv hdetails rfl
      have hpart : j ∈ (Json.obj members).parts := List.mem_map.mpr ⟨_, mem_of_lookup hj, rfl⟩
      exact EdgeDetails.read_fits (hdata.part hpart) (Payload.typed_inv htyped)
  exact ⟨(Payload.requiredText_trimmed hsource).nonempty, (Payload.requiredText_trimmed htarget).nonempty, hfinite,
    hnonneg, heq ▸ hfits⟩

/-- An edge that imports stand for. -/
theorem ofEnds_readable {source target : String} (hsource : source ≠ "") (htarget : target ≠ "") (kind : String) :
    (ofEnds source target kind).Readable := by
  have hnonneg : ¬ (1 : Float) < 0 := by decide
  exact ⟨hsource, htarget, one_weight.1, hnonneg, EdgeDetails.default_fits⟩

theorem edgeWeight_float {members : List (String × Json)} {w : Float}
    (hj : members.lookup "weight" = some (.float w)) (hfinite : w.isFinite = true) (hnonneg : ¬ w < 0) :
    Payload.edgeWeight members = .ok w := by
  rw [Json.float, if_pos hfinite] at hj
  simp only [Payload.edgeWeight, Payload.present?_of_lookup hj rfl, Json.float?, Number.toFloat, hfinite, hnonneg,
    Bool.not_true, decide_false, Bool.or_false, Bool.false_eq_true, if_false]

theorem parse_write (h : e.Readable) (hsource : Text.IsTrimmed e.source) (htarget : Text.IsTrimmed e.target) :
    parse e.write = .ok e := by
  simp only [parse, write]
  rw [ok_bind (Payload.requiredText_trim rfl hsource), ok_bind (Payload.requiredText_trim rfl htarget),
    ok_bind (Payload.optionalText_text rfl), ok_bind (edgeWeight_float rfl h.finite h.nonneg),
    ok_bind (Payload.optional_some rfl rfl (Payload.typed_ok (EdgeDetails.read_write h.details)))]
  rfl

end Edge
end CodeGraph
