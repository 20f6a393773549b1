import CodeGraph.Proofs.Graph.Repeated
/-!
What is left of a stored edge when it is asked for again. A payload replaces the edge as a whole: a part that it
leaves out has its default afterwards, so it is kept only where the default was stored.
-/
namespace CodeGraph

/-- What a payload says of an edge; a part that is absent or `null` is not said. -/
structure EdgePatch where
  kind : Option String
  weight : Option Float
  details : Option EdgeDetails

namespace EdgePatch

def ofMembers (members : List (String × Json)) : EdgePatch where
  kind := (Json.present? members "type").bind Json.str?
  weight := (Json.present? members "weight").bind Json.float?
  details := (Json.present? members "metadata").bind fun j => (EdgeDetails.read j).toOption

def ofData (data : Json) : EdgePatch := ofMembers (data.obj?.getD [])

/-- `after` has the parts that are said, and those of `before` that are not. Numbers are compared as numbers. -/
structure Merged (p : EdgePatch) (before after : Edge) : Prop where
  kind : after.kind = p.kind.getD before.kind
  weight : (after.weight == p.weight.getD before.weight) = true
  details : (after.details == p.details.getD before.details) = true

/-- Whatever the payload leaves out has its default. -/
structure OmitsDefaults (p : EdgePatch) (e : Edge) : Prop where
  kind : p.kind = none → e.kind = Edge.defaultKind
  weight : p.weight = none → (e.weight == 1) = true
  details : p.details = none → e.details = {}

end EdgePatch

/-- The ways to ask for an edge: by itself, or as an item of a batch. -/
inductive EdgeRequest where
  | upsert
  | add
  | modify

def EdgeRequest.run (r : EdgeRequest) (now : Time) (data : Json) (s : Store) : Except ValidationError Store :=
  match r with
  | upsert => (s.upsertEdge now data).map (·.2)
  | add => BatchOperation.apply now ⟨.edge, .add, data⟩ s
  | modify => BatchOperation.apply now ⟨.edge, .modify, data⟩ s

namespace Payload
variable {members : List (String × Json)} {field : String}

theorem optionalText_said {o : Option String} (h : optionalText members field = .ok o) :
    o = (Json.present? members field).bind Json.str? := by
  unfold optionalText at h
  split at h
  · next hj =>
    cases h
    rw [hj, Option.bind_none]
  · next s hj =>
    cases h
    rw [hj]
    rfl
  · cases h

theorem edgeWeight_said {w : Float} (h : edgeWeight members = .ok w) :
    w = ((Json.present? members "weight").bind Json.float?).getD 1 := by
  unfold edgeWeight at h
  split at h
  · next hj =>
    cases h
    rw [hj]
    rfl
  · next j hj =>
    split at h
    · cases h
    · next x hx =>
      split at h
      · cases h
      · cases h
        rw [hj, Option.bind_some, hx, Option.getD_some]

theorem optional_typed_said {α : Type} {read : Reader α} {o : Option α}
    (h : optional members field (typed field read) = .ok o) :
    o = (Json.present? members field).bind fun j => (read j).toOption := by
  unfold optional at h
  split at h
  · next hj =>
    cases h
    rw [hj, Option.bind_none]
  · next j hj =>
    obtain ⟨a, ha, rfl⟩ := map_ok_inv h
    rw [hj, Option.bind_some, typed_inv ha]
    rfl

theorem field_of_requiredText {what text : String} (h : requiredText members what field = .ok text) :
    BatchOperation.field (.obj members) field = .ok text := by
  have hmember : (Json.obj members).get? field = members.lookup field := rfl
  unfold requiredText at h
  split at h
  · next hs =>
    cases h
    simp only [BatchOperation.field, hmember, hs]
  · cases h

end Payload

/-- An edge that is read of a payload is the default edge between the ends, with what is said. -/
theorem Edge.parse_said {data : Json} {e : Edge} (h : parse data = .ok e) :
    BatchOperation.field data "from" = .ok e.source ∧ BatchOperation.field data "to" = .ok e.target ∧
      e.kind = (EdgePatch.ofData data).kind.getD defaultKind ∧ e.weight = (EdgePatch.ofData data).weight.getD 1 ∧
      e.details = (EdgePatch.ofData data).details.getD {} := by
  cases data with
  | obj members =>
    obtain ⟨source, hsource, h⟩ := bind_ok_inv h
    obtain ⟨target, htarget, h⟩ := bind_ok_inv h
    obtain ⟨kind, hkind, h⟩ := bind_ok_inv h
    obtain ⟨weight, hweight, h⟩ := bind_ok_inv h
    obtain ⟨details, hdetails, h⟩ := bind_ok_inv h
    cases h
    exact ⟨Payload.field_of_requiredText hsource, Payload.field_of_requiredText htarget,
      congrArg (·.getD defaultKind) (Payload.optionalText_said hkind), Payload.edgeWeight_said hweight,
      congrArg (·.getD {}) (Payload.optional_typed_said hdetails)⟩
  | _ => cases h

/-- Every accepted request stores the edge that its payload describes. -/
theorem EdgeRequest.run_ok {r : EdgeRequest} {now : Time} {data : Json} {s s' : Store} (h : r.run now data s = .ok s') :
    ∃ e, Edge.parse data = .ok e ∧ s' = (s.putEdge now e data).1 := by
  have hplanned : ∀ {s' : Store}, ((BatchOperation.planEdge data).map fun a => a.apply now s) = .ok s' →
      ∃ e, Edge.parse data = .ok e ∧ s' = (s.putEdge now e data).1 := by
    intro s' h
    obtain ⟨a, ha, rfl⟩ := map_ok_inv h
    obtain ⟨e, he, ha⟩ := bind_ok_inv ha
    cases ha
    exact ⟨e, he, rfl⟩
  cases r with
  | upsert =>
    rw [run, BatchOperation.planEdge_eq] at h
    exact hplanned h
  | add =>
    rw [run, BatchOperation.apply_eq] at h
    exact hplanned h
  | modify =>
    rw [run, BatchOperation.apply_eq] at h
    obtain ⟨a, ha, rfl⟩ := map_ok_inv h
    obtain ⟨source, -, ha⟩ := bind_ok_inv ha
    obtain ⟨target, -, ha⟩ := bind_ok_inv ha
    split at ha
    · exact hplanned (by rw [ha]; rfl)
    · cases ha

/-- The default details hold no number, so they are equal only to themselves. -/
theorem EdgeDetails.beq_default_iff {d : EdgeDetails} : ((d == {}) = true ↔ d = {}) ∧ (({} == d) = true ↔ d = {}) := by
  cases d with
  | mk lineNumber context strength bidirectional =>
    have hstrength : ((none == strength) = true ↔ strength = none) := by
      cases strength with
      | none => exact iff_of_true rfl rfl
      | some x => exact iff_of_false Bool.false_ne_true (Option.some_ne_none x)
    change (instBEqEdgeDetails.beq _ _ = true ↔ _) ∧ (instBEqEdgeDetails.beq _ _ = true ↔ _)
    simp [instBEqEdgeDetails.beq, hstrength, @eq_comm _ none lineNumber, @eq_comm _ none context]

theorem Edge.parts_of_beq {e e' : Edge} (h : (e == e') = true) :
    e.kind = e'.kind ∧ (e.weight == e'.weight) = true ∧ (e.details == e'.details) = true := by
  cases e
  cases e'
  change instBEqEdge.beq _ _ = true at h
  simp only [instBEqEdge.beq, Bool.and_eq_true, beq_iff_eq] at h
  exact h.2.2

namespace EdgePatch
variable {p : EdgePatch} {source target : String} {e e' : Edge}

theorem merged_iff : p.Merged e e' ↔ e'.kind = p.kind.getD e.kind ∧
    (e'.weight == p.weight.getD e.weight) = true ∧ (e'.details == p.details.getD e.details) = true :=
  ⟨fun h => ⟨h.kind, h.weight, h.details⟩, fun h => ⟨h.1, h.2.1, h.2.2⟩⟩

theorem omitsDefaults_iff : p.OmitsDefaults e ↔ (p.kind = none → e.kind = Edge.defaultKind) ∧
    (p.weight = none → (e.weight == 1) = true) ∧ (p.details = none → e.details = {}) :=
  ⟨fun h => ⟨h.kind, h.weight, h.details⟩, fun h => ⟨h.1, h.2.1, h.2.2⟩⟩

/-- What is said, put over the default edge, is what would have come of another edge just if that one had the defaults
of all parts that are not said. -/
theorem Merged.iff_omitsDefaults (h : p.Merged (.ofEnds source target Edge.defaultKind) e') :
    p.Merged e e' ↔ p.OmitsDefaults e := by
  obtain ⟨hkind, hweight, hdetails⟩ := h
  rw [merged_iff, omitsDefaults_iff]
  refine and_congr ?kind (and_congr ?weight ?details)
  case kind =>
    cases hp : p.kind with
    | some k => simpa [hp] using hkind
    | none =>
      rw [hp, Option.getD_none] at hkind
      rw [hkind, Option.getD_none, eq_comm]
      simp [Edge.ofEnds]
  case weight =>
    cases hp : p.weight with
    | some w => simpa [hp] using hweight
    | none =>
      rw [hp, Option.getD_none] at hweight
      rw [Option.getD_none, float_beq_congr hweight]
      simp only [Edge.ofEnds, true_imp_iff]
      exact ⟨float_beq_symm, float_beq_symm⟩
  case details =>
    cases hp : p.details with
    | some d => simpa [hp] using hdetails
    | none =>
      rw [hp, Option.getD_none] at hdetails
      rw [Option.getD_none, EdgeDetails.beq_default_iff.1.mp hdetails, EdgeDetails.beq_default_iff.2]
      simp only [true_imp_iff]

end EdgePatch

namespace Store
variable {s s' : Store} {now : Time}

/-- The edge that stands after an edge has been put is equal to that one. -/
theorem edge?_put_self (s : Store) (now : Time) {edge : Edge} (h : (edge == edge) = true) (payload : Json) :
    ∃ e, (s.putEdge now edge payload).1.edge? edge.source edge.target = some e ∧ (e == edge) = true := by
  rw [edge?_putEdge]
  by_cases hstored : s.hasEdge edge = true
  · rw [if_neg (by simp [hstored])]
    unfold hasEdge at hstored
    cases he : s.edges[edge.key]? with
    | none => rw [he] at hstored; cases hstored
    | some e => exact ⟨e, he, by rwa [he] at hstored⟩
  · exact ⟨edge, if_pos ⟨by simpa using hstored, rfl⟩, h⟩

/-- A request for an edge that is stored leaves the default edge with what is said. That is the stored edge with what is
said exactly if the parts that are left out had their defaults. -/
theorem edge_merged_iff {r : EdgeRequest} {data : Json} {source target : String} {e : Edge} (hdata : data.Finite)
    (h : r.run now data s = .ok s') (hsource : BatchOperation.field data "from" = .ok source)
    (htarget : BatchOperation.field data "to" = .ok target) (he : s.edge? source target = some e) :
    ∃ e', s'.edge? source target = some e' ∧
      (EdgePatch.ofData data).Merged (.ofEnds source target Edge.defaultKind) e' ∧
      ((EdgePatch.ofData data).Merged e e' ↔ (EdgePatch.ofData data).OmitsDefaults e) := by
  obtain ⟨edge, hparse, rfl⟩ := EdgeRequest.run_ok h
  obtain ⟨hfrom, hto, hkind, hweight, hdetails⟩ := Edge.parse_said hparse
  obtain rfl : edge.source = source := Except.ok.inj (hfrom.symm.trans hsource)
  obtain rfl : edge.target = target := Except.ok.inj (hto.symm.trans htarget)
  obtain ⟨e', he', hput⟩ := s.edge?_put_self now (Edge.parse_readable hdata hparse).beq_self data
  obtain ⟨hkind', hweight', hdetails'⟩ := Edge.parts_of_beq hput
  have hreset : (EdgePatch.ofData data).Merged (.ofEnds edge.source edge.target Edge.defaultKind) e' :=
    ⟨hkind'.trans hkind, hweight ▸ hweight', hdetails ▸ hdetails'⟩
  exact ⟨e', he', hreset, hreset.iff_omitsDefaults⟩

/-- An import that stands in a known line. -/
def lineImport : Edge := ⟨"a", "b", Edge.importKind, 2, { lineNumber := some 12 }⟩

def lined : Store := ((empty none).putEdge noon lineImport .null).1

/-- Asks for another weight. -/
def weighed : Json := .obj [("from", .str "a"), ("to", .str "b"), ("weight", .num (.float 0.5))]

/-- Asks for another weight and repeats the rest. -/
def spelt : Json :=
  .obj [("from", .str "a"), ("metadata", .obj [("lineNumber", .nat 12)]), ("to", .str "b"), ("type", .str "imports"),
    ("weight", .num (.float 0.5))]

/-- A new weight alone costs the edge its kind and its line. -/
theorem weighed_not_merged : ∃ s' e', lined.edge? "a" "b" = some lineImport ∧
    EdgeRequest.upsert.run night weighed lined = .ok s' ∧ s'.edge? "a" "b" = some e' ∧
    ((EdgePatch.ofData weighed).kind = none ∧ lineImport.kind = "imports" ∧ e'.kind = "uses") ∧
    ((EdgePatch.ofData weighed).details = none ∧ e'.details.lineNumber = none) ∧
    ¬ (EdgePatch.ofData weighed).Merged lineImport e' := by
  refine ⟨_, _, rfl, rfl, rfl, ⟨rfl, rfl, rfl⟩, ⟨rfl, rfl⟩, fun h => ?_⟩
  have hkind : "uses" = "imports" := h.kind
  exact absurd hkind (by decide)

theorem spelt_merged : ∃ s' e', spelt.Finite ∧ EdgeRequest.modify.run night spelt lined = .ok s' ∧
    lined.edge? "a" "b" = some lineImport ∧ s'.edge? "a" "b" = some e' ∧
    (EdgePatch.ofData spelt).Merged lineImport e' := by
  have hline : Json.Finite (.obj [("lineNumber", .nat 12)]) :=
    .obj (List.forall_mem_singleton.mpr (.num (by decide)))
  have hdata : spelt.Finite :=
    .obj (List.forall_mem_cons.mpr ⟨.str "a", List.forall_mem_cons.mpr ⟨hline, List.forall_mem_cons.mpr ⟨.str "b",
      List.forall_mem_cons.mpr ⟨.str "imports", List.forall_mem_singleton.mpr (.num (by decide))⟩⟩⟩⟩)
  obtain ⟨s', hrun⟩ : ∃ s', EdgeRequest.modify.run night spelt lined = .ok s' := ⟨_, rfl⟩
  have hstored : lined.edge? "a" "b" = some lineImport := rfl
  obtain ⟨e', he', -, hiff⟩ := edge_merged_iff hdata hrun rfl rfl hstored
  have homits : (EdgePatch.ofData spelt).OmitsDefaults lineImport :=
    ⟨fun h => (nomatch h), fun h => (nomatch h), fun h => (nomatch h)⟩
  exact ⟨s', e', hdata, hrun, hstored, he', hiff.mpr homits⟩

end Store
end CodeGraph
