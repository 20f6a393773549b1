import CodeGraph.Proofs.Graph.EdgeMerging
import CodeGraph.Proofs.Wire.Overlay
/-!
Two payloads given for one node, one after the other. They come to a single one, the second laid over the first: field
by field, and name by name in metrics and relationships.
-/
namespace CodeGraph
open Json

namespace Payload
variable {members lower upper : List (String × Json)} {field : String}

/-- What a field of a merged payload is, where the field is taken as a whole. -/
def Whole (members lower upper : List (String × Json)) (field : String) : Prop :=
  present? members field = (present? upper field).or (present? lower field)

theorem lookup_bind_str (members : List (String × Json)) (field : String) :
    (members.lookup field).bind str? = (present? members field).bind str? := by
  rw [present?_eq]
  cases members.lookup field with
  | none => rfl
  | some j => cases j <;> rfl

/-- A text that is required of the upper payload is the one of the merged payload. -/
theorem requiredText_merged {what text : String} (h : Whole members lower upper field)
    (hupper : requiredText upper what field = .ok text) : requiredText members what field = .ok text := by
  unfold requiredText at hupper ⊢
  rw [lookup_bind_str] at hupper ⊢
  cases hj : present? upper field with
  | none =>
    rw [hj] at hupper
    cases hupper
  | some j =>
    rw [hj] at hupper
    rw [h, hj, Option.some_or]
    exact hupper

theorem optional_merged {α : Type} {read : Json → Except ValidationError α} {a b : Option α}
    (h : Whole members lower upper field) (hlower : optional lower field read = .ok a)
    (hupper : optional upper field read = .ok b) : optional members field read = .ok (b.or a) := by
  unfold optional at hlower hupper ⊢
  rw [h]
  cases hj : present? upper field with
  | none =>
    rw [hj] at hupper
    cases hupper
    exact hlower
  | some j =>
    rw [hj] at hupper
    obtain ⟨value, hvalue, rfl⟩ := map_ok_inv hupper
    exact hupper

theorem optionalText_merged {a b : Option String} (h : Whole members lower upper field)
    (hlower : optionalText lower field = .ok a) (hupper : optionalText upper field = .ok b) :
    optionalText members field = .ok (b.or a) := by
  unfold optionalText at hlower hupper ⊢
  rw [h]
  cases hj : present? upper field with
  | none =>
    rw [hj] at hupper
    cases hupper
    exact hlower
  | some j =>
    rw [hj] at hupper
    cases j with
    | str s =>
      cases hupper
      rfl
    | _ => cases hupper

theorem optionalText_absent {o : Option String} (h : present? members field = none)
    (ho : optionalText members field = .ok o) : o = none := by
  rw [optionalText, h] at ho
  exact (Except.ok.inj ho).symm

theorem optional_absent {α : Type} {read : Json → Except ValidationError α} {o : Option α}
    (h : present? members field = none) (ho : optional members field read = .ok o) : o = none := by
  rw [optional, h] at ho
  exact (Except.ok.inj ho).symm

section Deep
variable {β : Type} {read : Json → Except ValidationError (List β)}
  {readMembers : List (String × Json) → Except ValidationError (List β)}

/-- A reader of an object that gives out a list, which is empty where the object is. -/
structure Lists (read : Json → Except ValidationError (List β))
    (readMembers : List (String × Json) → Except ValidationError (List β)) : Prop where
  obj : ∀ members, read (.obj members) = readMembers members
  other : ∀ j values, read j = .ok values → ∃ members, j = .obj members
  nil : readMembers [] = .ok []

theorem lists_metrics : Lists metrics metricMembers where
  obj _ := rfl
  other j _ h := by
    cases j with
    | obj members => exact ⟨members, rfl⟩
    | _ => cases h
  nil := rfl

theorem lists_relationships : Lists relationships (relationSets · Relation.all) where
  obj _ := rfl
  other j _ h := by
    cases j with
    | obj members => exact ⟨members, rfl⟩
    | _ => cases h
  nil := rfl

/-- A field that may be left out is read where each of its values is an object that is read. -/
theorem Lists.optional_iff (h : Lists read readMembers) {values : List β} :
    (∃ o, optional members field read = .ok o ∧ o.getD [] = values) ↔
      (∀ j, present? members field = some j → ∃ inner, j = .obj inner) ∧
        readMembers (membersAt members field) = .ok values := by
  unfold optional membersAt
  cases hj : present? members field with
  | none =>
    constructor
    · rintro ⟨o, ho, rfl⟩
      cases ho
      exact ⟨fun j hj => (nomatch hj), h.nil⟩
    · rintro ⟨-, hvalues⟩
      exact ⟨none, rfl, Except.ok.inj (h.nil.symm.trans hvalues)⟩
  | some j =>
    constructor
    · rintro ⟨o, ho, rfl⟩
      obtain ⟨found, hfound, rfl⟩ := map_ok_inv ho
      obtain ⟨inner, rfl⟩ := h.other j found hfound
      exact ⟨fun i hi => ⟨inner, (Option.some.inj hi).symm⟩, (h.obj inner).symm.trans hfound⟩
    · rintro ⟨hobject, hvalues⟩
      obtain ⟨inner, rfl⟩ := hobject j rfl
      refine ⟨some values, ?_, rfl⟩
      have hread : read (.obj inner) = .ok values := (h.obj inner).trans hvalues
      simp only [hread, Except.map]

/-- A field that is merged by name is read where the merged members are. -/
theorem Lists.optional_merged (h : Lists read readMembers) {deep : List String} (hsorted : Sorted upper)
    (hfield : field ∈ deep) {values : List β}
    (hlower : ∀ j, present? lower field = some j → ∃ inner, j = .obj inner)
    (hupper : ∀ j, present? upper field = some j → ∃ inner, j = .obj inner)
    (hvalues : readMembers (overlay (membersAt lower field) (membersAt upper field)) = .ok values) :
    ∃ o, optional (mergedMembers deep lower upper) field read = .ok o ∧ o.getD [] = values := by
  rw [h.optional_iff, membersAt_merged hsorted hfield hupper]
  refine ⟨fun j hj => ?_, hvalues⟩
  rw [present?_deep hsorted hfield hupper] at hj
  split at hj
  · exact ⟨_, (Option.some.inj hj).symm⟩
  · exact hlower j hj

end Deep

/-- What is read of a name comes from the upper object if it stands there, and else from the lower one. -/
theorem bind_overlay {α : Type} {f : Json → Option α} {name : String} (hsorted : Sorted upper)
    (hread : ∀ j, present? upper name = some j → (f j).isSome = true) :
    (present? (overlay lower upper) name).bind f =
      ((present? upper name).bind f).or ((present? lower name).bind f) := by
  rw [present?_overlay hsorted.nodup]
  cases hj : present? upper name with
  | none => rfl
  | some j =>
    obtain ⟨a, ha⟩ := Option.isSome_iff_exists.mp (hread j hj)
    rw [Option.some_or, Option.bind_some, ha, Option.some_or]

section Metrics

/-- The number that is asked for a metric. -/
def asked? (members : List (String × Json)) (k : Metric) : Option Float := (present? members k.name).bind float?

theorem metricMembers_ok_iff :
    (∃ values, metricMembers members = .ok values) ↔ ∀ m ∈ members, m.2.float?.isSome = true := by
  induction members with
  | nil => exact iff_of_true ⟨[], rfl⟩ fun m hm => absurd hm List.not_mem_nil
  | cons first rest ih =>
    rw [List.forall_mem_cons, ← ih]
    simp only [metricMembers]
    cases first.2.float? with
    | none => simp
    | some x =>
      simp only [Option.isSome_some, true_and]
      constructor
      · rintro ⟨values, hvalues⟩
        obtain ⟨rest', hrest, -⟩ := map_ok_inv hvalues
        exact ⟨rest', hrest⟩
      · rintro ⟨rest', hrest⟩
        exact ⟨_, by rw [hrest]; rfl⟩

theorem name_of_ofName? {name : String} {k : Metric} (h : Metric.ofName? name = some k) : k.name = name := by
  simpa using List.find?_some h

theorem asked?_cons {first : String × Json} {rest : List (String × Json)} {k : Metric} :
    asked? (first :: rest) k = if k.name = first.1 then first.2.float? else asked? rest k := by
  rw [asked?, present?_cons]
  split
  · cases first.2 <;> rfl
  · rfl

/-- Where each name stands once, a metric gets the number that is asked for it. -/
theorem get_setAll_asked {values : List (Metric × Float)} (hsorted : Sorted members)
    (h : metricMembers members = .ok values) (m : Metrics) (k : Metric) :
    (m.setAll values).get k = ((asked? members k).map k.clamp).getD (m.get k) := by
  induction members generalizing m values with
  | nil =>
    cases h
    rfl
  | cons first rest ih =>
    obtain ⟨hfirst, hrest⟩ := List.nodup_cons.mp hsorted.nodup
    simp only [metricMembers] at h
    cases hx : first.2.float? with
    | none =>
      rw [hx] at h
      cases h
    | some x =>
      rw [hx] at h
      obtain ⟨values', hvalues', rfl⟩ := map_ok_inv h
      have hlater := fun m => ih (List.pairwise_cons.mp hsorted).2 hvalues' m
      rw [asked?_cons, hx]
      by_cases hk : k.name = first.1
      · have hmetric : Metric.ofName? first.1 = some k := hk ▸ Metric.ofName?_name k
        have habsent : asked? rest k = none := by
          rw [asked?, present?_none_of_not_mem (hk ▸ hfirst)]
          rfl
        rw [if_pos hk, hmetric]
        change ((m.set k x).setAll values').get k = _
        rw [hlater, habsent]
        exact Metrics.get_put_self m k (k.clamp x)
      · rw [if_neg hk]
        cases hmetric : Metric.ofName? first.1 with
        | none => exact hlater m
        | some l =>
          have hne : k ≠ l := by
            rintro rfl
            exact hk (name_of_ofName? hmetric)
          change ((m.set l x).setAll values').get k = _
          rw [hlater, Metrics.set, Metrics.get_put_of_ne m _ hne]

/-- Metrics laid over others are set as if they had been set after these. -/
theorem setAll_overlay {a b : List (Metric × Float)} (hu : Sorted lower) (ho : Sorted upper)
    (ha : metricMembers lower = .ok a) (hb : metricMembers upper = .ok b) :
    ∃ c, metricMembers (overlay lower upper) = .ok c ∧ ∀ m : Metrics, m.setAll c = (m.setAll a).setAll b := by
  have hlower := metricMembers_ok_iff.mp ⟨a, ha⟩
  have hupper := metricMembers_ok_iff.mp ⟨b, hb⟩
  obtain ⟨c, hc⟩ := metricMembers_ok_iff.mpr fun m hm => (mem_overlay hm).elim (hlower m) (hupper m)
  refine ⟨c, hc, fun m => Metrics.ext_get fun k => ?_⟩
  have hasked : asked? (overlay lower upper) k = (asked? upper k).or (asked? lower k) :=
    bind_overlay ho fun j hj => hupper _ (mem_of_present? hj)
  rw [get_setAll_asked (overlay_sorted hu) hc, get_setAll_asked ho hb, get_setAll_asked hu ha, hasked]
  cases asked? upper k <;> rfl

end Metrics

section Relations

/-- The ids that are named for a relation. -/
def named? (members : List (String × Json)) (k : Relation) : Option StringSet :=
  (present? members k.name).bind fun j => (stringSet s!"relationships.{k.name}" j).toOption

theorem relationSets_ok_iff {ks : List Relation} : (∃ sets, relationSets members ks = .ok sets) ↔
    ∀ k ∈ ks, ∀ j, present? members k.name = some j →
      (stringSet s!"relationships.{k.name}" j).toOption.isSome = true := by
  induction ks with
  | nil => exact iff_of_true ⟨[], rfl⟩ fun k hk => absurd hk List.not_mem_nil
  | cons k ks ih =>
    rw [List.forall_mem_cons, ← ih]
    simp only [relationSets]
    cases hj : present? members k.name with
    | none => simp
    | some j =>
      simp only [Option.some.injEq, forall_eq']
      cases hids : stringSet s!"relationships.{k.name}" j with
      | error fault => simp [Except.toOption]
      | ok ids =>
        simp only [Except.toOption, Option.isSome_some, true_and]
        constructor
        · rintro ⟨sets, hsets⟩
          obtain ⟨rest, hrest, -⟩ := map_ok_inv hsets
          exact ⟨rest, hrest⟩
        · rintro ⟨rest, hrest⟩
          exact ⟨_, by rw [hrest]; rfl⟩

/-- A relation gets the ids that are named for it. -/
theorem get_foldl_named {ks : List Relation} {sets : List (Relation × StringSet)} (hks : ks.Nodup)
    (h : relationSets members ks = .ok sets) (r : Relationships) (k : Relation) :
    (sets.foldl (fun r s => r.put s.2 s.1) r).get k =
      if k ∈ ks then (named? members k).getD (r.get k) else r.get k := by
  induction ks generalizing r sets with
  | nil =>
    cases h
    rfl
  | cons first rest ih =>
    obtain ⟨hfirst, hrest⟩ := List.nodup_cons.mp hks
    simp only [relationSets] at h
    cases hj : present? members first.name with
    | none =>
      rw [hj] at h
      rw [ih hrest h]
      by_cases hk : k = first
      · subst hk
        rw [if_neg hfirst, if_pos List.mem_cons_self, named?, hj]
        rfl
      · simp only [List.mem_cons, hk, false_or]
    | some j =>
      simp only [hj] at h
      split at h
      · cases h
      · next ids hids =>
        obtain ⟨sets', hsets', rfl⟩ := map_ok_inv h
        rw [List.foldl_cons, ih hrest hsets']
        by_cases hk : k = first
        · subst hk
          rw [if_neg hfirst, if_pos List.mem_cons_self, named?, hj, Option.bind_some, hids]
          exact Relationships.get_put_self r k ids
        · simp only [List.mem_cons, hk, false_or, Relationships.get_put_of_ne r ids hk]

theorem foldl_put_all {sets : List (Relation × StringSet)} (h : relationSets members Relation.all = .ok sets)
    (r : Relationships) (k : Relation) :
    (sets.foldl (fun r s => r.put s.2 s.1) r).get k = (named? members k).getD (r.get k) := by
  have hall : k ∈ Relation.all := by cases k <;> decide
  rw [get_foldl_named (by decide) h, if_pos hall]

/-- Relations laid over others are put as if they had been put after these. -/
theorem foldl_put_overlay {a b : List (Relation × StringSet)} (ho : Sorted upper)
    (ha : relationSets lower Relation.all = .ok a) (hb : relationSets upper Relation.all = .ok b) :
    ∃ c, relationSets (overlay lower upper) Relation.all = .ok c ∧ ∀ r : Relationships,
      c.foldl (fun r s => r.put s.2 s.1) r =
        b.foldl (fun r s => r.put s.2 s.1) (a.foldl (fun r s => r.put s.2 s.1) r) := by
  have hlower := relationSets_ok_iff.mp ⟨a, ha⟩
  have hupper := relationSets_ok_iff.mp ⟨b, hb⟩
  have hread : ∀ k ∈ Relation.all, ∀ j, present? (overlay lower upper) k.name = some j →
      (stringSet s!"relationships.{k.name}" j).toOption.isSome = true := by
    intro k hk j hj
    rw [present?_overlay ho.nodup] at hj
    rcases Option.or_eq_some_iff.mp hj with hj | ⟨-, hj⟩
    · exact hupper k hk j hj
    · exact hlower k hk j hj
  obtain ⟨c, hc⟩ := relationSets_ok_iff.mpr hread
  refine ⟨c, hc, fun r => Relationships.ext_get fun k => ?_⟩
  have hall : k ∈ Relation.all := by cases k <;> decide
  have hnamed : named? (overlay lower upper) k = (named? upper k).or (named? lower k) := bind_overlay ho (hupper k hall)
  rw [foldl_put_all hc, foldl_put_all hb, foldl_put_all ha, hnamed]
  cases named? upper k <;> rfl

end Relations
end Payload

namespace NodePatch
variable {members : List (String × Json)} {p : NodePatch}

/-- What all the parts of a patch are read of. -/
structure Reads (members : List (String × Json)) (p : NodePatch) : Prop where
  id : Payload.requiredText members "node" "id" = .ok p.id
  kind : Payload.requiredText members "node" "type" = .ok p.kind
  name : Payload.optionalText members "name" = .ok p.name
  path : Payload.optionalText members "path" = .ok p.path
  dependencies : Payload.optional members "dependencies" (Payload.stringSet "dependencies") = .ok p.dependencies
  metrics : ∃ values, Payload.optional members "metrics" Payload.metrics = .ok values ∧ values.getD [] = p.metrics
  relationships : ∃ sets, Payload.optional members "relationships" Payload.relationships = .ok sets ∧
    sets.getD [] = p.relationships
  context : Payload.optional members "context" (Payload.typed "context" NodeContext.read) = .ok p.context
  analysis : Payload.optional members "analysis" (Payload.typed "analysis" Annotations.read) = .ok p.analysis

theorem parse_iff : parse (.obj members) = .ok p ↔ Reads members p := by
  constructor
  · intro h
    obtain ⟨id, hid, h⟩ := bind_ok_inv h
    obtain ⟨kind, hkind, h⟩ := bind_ok_inv h
    obtain ⟨name, hname, h⟩ := bind_ok_inv h
    obtain ⟨path, hpath, h⟩ := bind_ok_inv h
    obtain ⟨dependencies, hdependencies, h⟩ := bind_ok_inv h
    obtain ⟨metrics, hmetrics, h⟩ := bind_ok_inv h
    obtain ⟨relationships, hrelationships, h⟩ := bind_ok_inv h
    obtain ⟨context, hcontext, h⟩ := bind_ok_inv h
    obtain ⟨analysis, hanalysis, h⟩ := bind_ok_inv h
    cases h
    exact ⟨hid, hkind, hname, hpath, hdependencies, ⟨metrics, hmetrics, rfl⟩, ⟨relationships, hrelationships, rfl⟩,
      hcontext, hanalysis⟩
  · rintro ⟨hid, hkind, hname, hpath, hdependencies, ⟨metrics, hmetrics, hvalues⟩, ⟨sets, hsets, hrelationships⟩,
      hcontext, hanalysis⟩
    simp only [parse]
    rw [ok_bind hid, ok_bind hkind, ok_bind hname, ok_bind hpath, ok_bind hdependencies, ok_bind hmetrics,
      ok_bind hsets, ok_bind hcontext, ok_bind hanalysis, hvalues, hrelationships]
    rfl

/-- The fields of a payload that are merged by name. -/
def deepFields : List String := ["metrics", "relationships"]

/-- Two payloads that are accepted come to one, which asks for what the first and then the second asks for. -/
theorem parse_merge {p q : Json} {a b : NodePatch} (hp : p.Ordered) (hq : q.Ordered) (ha : parse p = .ok a)
    (hb : parse q = .ok b) :
    ∃ c, parse (merge deepFields p q) = .ok c ∧ c.id = b.id ∧ c.kind = b.kind ∧
      ∀ n, c.apply n = b.apply (a.apply n) := by
  obtain ⟨lower, rfl, -⟩ := parse_parts ha
  obtain ⟨upper, rfl, -⟩ := parse_parts hb
  have hsorted := hq.members.1
  have hwhole : ∀ field, field ∉ deepFields → Payload.Whole (mergedMembers deepFields lower upper) lower upper field :=
    fun field hfield => present?_whole hsorted hfield
  have hu := parse_iff.mp ha
  have ho := parse_iff.mp hb
  obtain ⟨hmetricsObjU, hmetricsU⟩ := Payload.lists_metrics.optional_iff.mp hu.metrics
  obtain ⟨hmetricsObjO, hmetricsO⟩ := Payload.lists_metrics.optional_iff.mp ho.metrics
  obtain ⟨hsetsObjU, hsetsU⟩ := Payload.lists_relationships.optional_iff.mp hu.relationships
  obtain ⟨hsetsObjO, hsetsO⟩ := Payload.lists_relationships.optional_iff.mp ho.relationships
  obtain ⟨values, hvalues, hset⟩ := Payload.setAll_overlay (membersAt_ordered hp).members.1
    (membersAt_ordered hq).members.1 hmetricsU hmetricsO
  obtain ⟨sets, hsets, hput⟩ := Payload.foldl_put_overlay (membersAt_ordered hq).members.1 hsetsU hsetsO
  refine ⟨{ b with
    name := b.name.or a.name, path := b.path.or a.path, dependencies := b.dependencies.or a.dependencies
    metrics := values, relationships := sets, context := b.context.or a.context
    analysis := b.analysis.or a.analysis }, parse_iff.mpr ?_, rfl, rfl, fun n => ?_⟩
  · constructor
    · exact Payload.requiredText_merged (hwhole "id" (by decide)) ho.id
    · exact Payload.requiredText_merged (hwhole "type" (by decide)) ho.kind
    · exact Payload.optionalText_merged (hwhole "name" (by decide)) hu.name ho.name
    · exact Payload.optionalText_merged (hwhole "path" (by decide)) hu.path ho.path
    · exact Payload.optional_merged (hwhole "dependencies" (by decide)) hu.dependencies ho.dependencies
    · exact Payload.lists_metrics.optional_merged hsorted (by decide) hmetricsObjU hmetricsObjO hvalues
    · exact Payload.lists_relationships.optional_merged hsorted (by decide) hsetsObjU hsetsObjO hsets
    · exact Payload.optional_merged (hwhole "context" (by decide)) hu.context ho.context
    · exact Payload.optional_merged (hwhole "analysis" (by decide)) hu.analysis ho.analysis
  · simp only [apply, hset, hput, Option.getD_or]

/-- What a payload says in a field; `null` says nothing. -/
def said? (data : Json) (field : String) : Option Json := present? (data.obj?.getD []) field

/-- What a payload says under a name in a field that is merged by name. -/
def saidIn? (data : Json) (field name : String) : Option Json := present? (membersAt (data.obj?.getD []) field) name

/-- A node that has kept every part of which none of some payloads speaks. -/
structure Keeps (payloads : List Json) (before after : Node) : Prop where
  id : after.id = before.id
  name : (∀ data ∈ payloads, said? data "name" = none) → after.name = before.name
  path : (∀ data ∈ payloads, said? data "path" = none) → after.path = before.path
  dependencies : (∀ data ∈ payloads, said? data "dependencies" = none) → after.dependencies = before.dependencies
  context : (∀ data ∈ payloads, said? data "context" = none) → after.context = before.context
  analysis : (∀ data ∈ payloads, said? data "analysis" = none) → after.analysis = before.analysis
  metric : ∀ k : Metric, (∀ data ∈ payloads, saidIn? data "metrics" k.name = none) →
    after.metrics.get k = before.metrics.get k
  relation : ∀ k : Relation, (∀ data ∈ payloads, saidIn? data "relationships" k.name = none) →
    after.relationships.get k = before.relationships.get k

theorem Keeps.trans {first more : List Json} {n m l : Node} (h : Keeps first n m) (h' : Keeps more m l) :
    Keeps (first ++ more) n l where
  id := h'.id.trans h.id
  name hs := (h'.name fun d hd => hs d (List.mem_append_right _ hd)).trans
    (h.name fun d hd => hs d (List.mem_append_left _ hd))
  path hs := (h'.path fun d hd => hs d (List.mem_append_right _ hd)).trans
    (h.path fun d hd => hs d (List.mem_append_left _ hd))
  dependencies hs := (h'.dependencies fun d hd => hs d (List.mem_append_right _ hd)).trans
    (h.dependencies fun d hd => hs d (List.mem_append_left _ hd))
  context hs := (h'.context fun d hd => hs d (List.mem_append_right _ hd)).trans
    (h.context fun d hd => hs d (List.mem_append_left _ hd))
  analysis hs := (h'.analysis fun d hd => hs d (List.mem_append_right _ hd)).trans
    (h.analysis fun d hd => hs d (List.mem_append_left _ hd))
  metric k hs := (h'.metric k fun d hd => hs d (List.mem_append_right _ hd)).trans
    (h.metric k fun d hd => hs d (List.mem_append_left _ hd))
  relation k hs := (h'.relation k fun d hd => hs d (List.mem_append_right _ hd)).trans
    (h.relation k fun d hd => hs d (List.mem_append_left _ hd))

theorem apply_keeps {data : Json} (hdata : data.Ordered) (h : parse data = .ok p) (n : Node) :
    Keeps [data] n (p.apply n) := by
  obtain ⟨members, rfl, -⟩ := parse_parts h
  have hr := parse_iff.mp h
  obtain ⟨-, hmetrics⟩ := Payload.lists_metrics.optional_iff.mp hr.metrics
  obtain ⟨-, hsets⟩ := Payload.lists_relationships.optional_iff.mp hr.relationships
  have hsaid : ∀ {field}, (∀ data ∈ [Json.obj members], said? data field = none) → present? members field = none :=
    fun hs => hs _ List.mem_cons_self
  have hsaidIn : ∀ {field name}, (∀ data ∈ [Json.obj members], saidIn? data field name = none) →
      present? (membersAt members field) name = none := fun hs => hs _ List.mem_cons_self
  constructor
  case id => rfl
  case name =>
    intro hs
    have habsent := Payload.optionalText_absent (hsaid hs) hr.name
    simp only [apply, habsent, Option.getD_none]
  case path =>
    intro hs
    have habsent := Payload.optionalText_absent (hsaid hs) hr.path
    simp only [apply, habsent, Option.getD_none]
  case dependencies =>
    intro hs
    have habsent := Payload.optional_absent (hsaid hs) hr.dependencies
    simp only [apply, habsent, Option.getD_none]
  case context =>
    intro hs
    have habsent := Payload.optional_absent (hsaid hs) hr.context
    simp only [apply, habsent, Option.getD_none]
  case analysis =>
    intro hs
    have habsent := Payload.optional_absent (hsaid hs) hr.analysis
    simp only [apply, habsent, Option.getD_none]
  case metric =>
    intro k hs
    rw [apply, Payload.get_setAll_asked (membersAt_ordered hdata).members.1 hmetrics, Payload.asked?, hsaidIn hs]
    rfl
  case relation =>
    intro k hs
    rw [apply, Payload.foldl_put_all hsets, Payload.named?, hsaidIn hs]
    rfl

end NodePatch

namespace Store
variable {s s₁ s₂ : Store} {now later : Time}

theorem upsertNode_inv {data : Json} {id : String} (h : s.upsertNode now data = .ok (id, s₁)) :
    ∃ p, NodePatch.parse data = .ok p ∧ p.id = id ∧ s₁ = (s.modify now id p.kind .file data p.apply).1 := by
  obtain ⟨p, hp, h⟩ := bind_ok_inv h
  cases h
  exact ⟨p, hp, rfl, rfl⟩

/-- Two payloads accepted for one node leave it as the one that the second laid over the first is, and keep what
neither speaks of; nothing else changes. -/
theorem upserts_compose {p q : Json} {id : String} (hp : p.Ordered) (hq : q.Ordered)
    (h₁ : s.upsertNode now p = .ok (id, s₁)) (h₂ : s₁.upsertNode later q = .ok (id, s₂)) (once : Time) :
    ∃ t n, s.upsertNode once (merge NodePatch.deepFields p q) = .ok (id, t) ∧
      s₂.node? id = some n ∧ t.node? id = some n ∧
      (∀ kind, NodePatch.Keeps [p, q] ((s.node? id).getD (.ofId id kind)) n) ∧
      (∀ x, x ≠ id → s₂.node? x = s.node? x ∧ t.node? x = s.node? x) ∧
      ∀ source target, s₂.edge? source target = s.edge? source target ∧
        t.edge? source target = s.edge? source target := by
  obtain ⟨a, ha, rfl, rfl⟩ := upsertNode_inv h₁
  obtain ⟨b, hb, hid, rfl⟩ := upsertNode_inv h₂
  obtain ⟨c, hc, hcid, -, happly⟩ := NodePatch.parse_merge hp hq ha hb
  have hfirst : (s.modify now a.id a.kind .file p a.apply).1.node? a.id =
      some (a.apply ((s.node? a.id).getD (.ofId a.id a.kind))) := by
    rw [node?_modify, if_pos rfl, edited]
  have hsecond : ((s.modify now a.id a.kind .file p a.apply).1.modify later a.id b.kind .file q b.apply).1.node? a.id =
      some (b.apply (a.apply ((s.node? a.id).getD (.ofId a.id a.kind)))) := by
    rw [node?_modify, if_pos rfl, edited, hfirst, Option.getD_some]
  -- A patch sets the kind, so it does not matter of what kind a new node was created.
  have hkind : ∀ kind, a.apply ((s.node? a.id).getD (.ofId a.id kind)) =
      a.apply ((s.node? a.id).getD (.ofId a.id a.kind)) := by
    intro kind
    cases s.node? a.id <;> rfl
  have honce : s.upsertNode once (merge NodePatch.deepFields p q) = .ok (a.id,
      (s.modify once a.id c.kind .file (merge NodePatch.deepFields p q) c.apply).1) := by
    rw [upsertNode_of_parse s once hc, hcid, hid]
  refine ⟨_, _, honce, hsecond, ?_, fun kind => ?_, fun x hx => ?_, fun source target => ?_⟩
  · have hcreated : c.apply ((s.node? a.id).getD (.ofId a.id c.kind)) =
        b.apply (a.apply ((s.node? a.id).getD (.ofId a.id a.kind))) := by
      rw [happly, hkind]
    rw [node?_modify, if_pos rfl, edited, hcreated]
  · rw [← hkind kind]
    exact (NodePatch.apply_keeps hp ha _).trans (NodePatch.apply_keeps hq hb _)
  · simp only [node?_modify, if_neg (Ne.symm hx), and_self]
  · simp only [edge?_modify, and_self]

/-- A file with a coverage and a number of lines. -/
def rough : Json :=
  .obj [("id", .str " app "), ("metrics", .obj [("coverage", .num (.float 0.5)), ("lines", .nat 10)]),
    ("type", .str "file")]

/-- Asks for another number of lines, for an import and for no name. -/
def refined : Json :=
  .obj [("id", .str "app"), ("metrics", .obj [("lines", .nat 20)]), ("name", .null),
    ("relationships", .obj [("imports", .arr [.str "db"])]), ("type", .str "module")]

example : merge NodePatch.deepFields rough refined =
    .obj [("id", .str "app"), ("metrics", .obj [("coverage", .num (.float 0.5)), ("lines", .nat 20)]),
      ("relationships", .obj [("imports", .arr [.str "db"])]), ("type", .str "module")] := rfl

theorem refined_composed : rough.Ordered ∧ refined.Ordered ∧ ∃ s₁ s₂ t n,
    (empty none).upsertNode noon rough = .ok ("app", s₁) ∧ s₁.upsertNode night refined = .ok ("app", s₂) ∧
    (empty none).upsertNode night (merge NodePatch.deepFields rough refined) = .ok ("app", t) ∧
    s₂.node? "app" = some n ∧ t.node? "app" = some n ∧ n.name = "app" ∧ n.relationships.usedBy = ∅ := by
  have hrough : rough.Ordered :=
    .obj (by decide) (by
      simp only [List.forall_mem_cons]
      exact ⟨.str _, .obj (by decide) (by simp [Json.nat, Ordered.num]), .str _, by simp⟩)
  have hrefined : refined.Ordered :=
    .obj (by decide) (by
      simp only [List.forall_mem_cons]
      exact ⟨.str _, .obj (by decide) (by simp [Json.nat, Ordered.num]), .null,
        .obj (by decide) (by simp [Ordered.arr, Ordered.str]), .str _, by simp⟩)
  obtain ⟨s₁, h₁⟩ : ∃ s₁, (empty none).upsertNode noon rough = .ok ("app", s₁) := ⟨_, rfl⟩
  obtain ⟨s₂, h₂⟩ : ∃ s₂, s₁.upsertNode night refined = .ok ("app", s₂) := ⟨_, rfl⟩
  obtain ⟨t, n, honce, hn, ht, hkept, -⟩ := upserts_compose hrough hrefined h₁ h₂ night
  have hnew : (empty none).node? "app" = none := rfl
  have hkept := hkept "file"
  rw [hnew, Option.getD_none] at hkept
  have hsilent : ∀ data ∈ [rough, refined], NodePatch.said? data "name" = none :=
    List.forall_mem_cons.mpr ⟨rfl, List.forall_mem_singleton.mpr rfl⟩
  have hsilentIn : ∀ data ∈ [rough, refined], NodePatch.saidIn? data "relationships" Relation.usedBy.name = none :=
    List.forall_mem_cons.mpr ⟨rfl, List.forall_mem_singleton.mpr rfl⟩
  exact ⟨hrough, hrefined, s₁, s₂, t, n, h₁, h₂, honce, hn, ht, hkept.name hsilent, hkept.relation .usedBy hsilentIn⟩

end Store
end CodeGraph
