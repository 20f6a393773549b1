import Mathlib.Data.List.Induction
import CodeGraph.Proofs.Batch.Removal
import CodeGraph.Proofs.Engine.Session
import CodeGraph.Proofs.Graph.Names
import CodeGraph.Proofs.Graph.Update
/-!
Names that are not trimmed. What is asked for by name is trimmed first, so a node under any other name cannot be
addressed; three kinds of commands bring such names into the graph as they stand.
-/
namespace CodeGraph

namespace Store

/-- Every stored name is trimmed. -/
structure Trimmed (s : Store) : Prop where
  node : ∀ id, s.contains id = true → Text.IsTrimmed id
  edge : ∀ a b e, s.edge? a b = some e → Text.IsTrimmed a ∧ Text.IsTrimmed b

theorem empty_trimmed (limit : Option Nat) : (empty limit).Trimmed where
  node id h := by simp [empty, contains] at h
  edge a b e h := by simp [empty, edge?] at h

theorem Adds.trimmed {named : String → Prop} {s s' : Store} (h : s.Adds named s') (hs : s.Trimmed)
    (hnamed : ∀ id, named id → Text.IsTrimmed id) : s'.Trimmed where
  node id hid := (h.node id hid).elim (hs.node id) (hnamed id)
  edge a b e he := by
    rcases h.edge a b e he with hold | ⟨ha, hb⟩
    · obtain ⟨e', he'⟩ := Option.isSome_iff_exists.mp hold
      exact hs.edge a b e' he'
    · exact ⟨hnamed a ha, hnamed b hb⟩

end Store

theorem StoreAction.Direct.brings {a : StoreAction} (h : a.Direct) : a.Brings Text.IsTrimmed := by
  cases h with
  | upsertNode hp => exact NodePatch.parse_id hp
  | upsertEdge he =>
    obtain ⟨hsource, htarget, -⟩ := Edge.parse_ends he
    exact ⟨hsource, htarget⟩
  | removeNode id => trivial
  | removeEdge source target => trivial

theorem GraphUpdate.direct_adds {u : GraphUpdate} (hu : u.isDirect = true) (now : Time) (s : Store) :
    s.Adds Text.IsTrimmed (u.apply now s) :=
  direct_apply (P := fun s' => s.Adds Text.IsTrimmed s') (.refl s) (fun _ ha => .apply ha.brings s) hu

theorem Verdict.accepted_direct {now : Time} {items : List Json} {s : Store} :
    ∀ a ∈ accepted (all now items s), a.Direct := by
  induction items generalizing s with
  | nil => simp [all]
  | cons item rest ih =>
    intro a ha
    simp only [all] at ha
    cases hj : judge s item with
    | error e =>
      rw [hj] at ha
      exact ih a ha
    | ok first =>
      rw [hj, accepted_ok] at ha
      rcases List.mem_cons.mp ha with rfl | ha
      · obtain ⟨op, -, hplan⟩ := bind_ok_inv hj
        exact BatchOperation.plan_direct hplan
      · exact ih a ha

namespace Engine

/-- The names that a command brings into the graph as they stand: the listed imports of a file, the paths of a report,
and the path of an analysis. -/
def brings (now : Time) (e : Engine) : Command → List String
  | .inbound event payload =>
    match InboundEvent.ofName? event with
    | some .dependenciesChanged => ((DependencyChange.parse payload).toOption.map (·.dependencies)).getD []
    | some .projectUpdate => (ProjectUpdate.parse now e.config.projectRoot payload).paths
    | _ => []
  | .answered (.analysis path seq) (.ok response) =>
    if e.isCurrent path seq && (AnalyzerResult.parse path response).isOk then [path] else []
  | .answered .project (.ok payload) =>
    if (payload.get? "structure").isSome then (ProjectUpdate.parse now e.config.projectRoot payload).paths else []
  | _ => []

/-- The graph after a command: what is new is trimmed or was brought as it stands, and all that was brought is there. -/
structure Takes (names : List String) (e e' : Engine) : Prop where
  adds : e.store.Adds (fun id => Text.IsTrimmed id ∨ id ∈ names) e'.store
  there : ∀ id ∈ names, e'.store.contains id = true

namespace Takes
variable {names : List String} {e e' : Engine}

theorem trimmed (h : e.store.Adds Text.IsTrimmed e'.store) : Takes [] e e' :=
  ⟨h.mono fun _ => Or.inl, fun _ hid => absurd hid List.not_mem_nil⟩

theorem same (h : e'.store = e.store) : Takes [] e e' := by
  refine trimmed ?_
  rw [h]
  exact .refl e.store

theorem dropDirty (h : Takes names e e') : Takes names e e'.dropDirty := ⟨⟨h.adds.node, h.adds.edge⟩, h.there⟩

end Takes

section Commands
variable (r : Reading) (e : Engine)

theorem dependenciesChanged_takes (payload : Json) :
    Takes (((DependencyChange.parse payload).toOption.map (·.dependencies)).getD []) e
      (e.dependenciesChanged r.now payload).1 := by
  simp only [dependenciesChanged]
  cases hc : DependencyChange.parse payload with
  | error fault => exact Takes.same rfl
  | ok c =>
    have hstore : Takes c.dependencies e { e with store := (c.apply r.now payload e.store).1 } := by
      refine ⟨.replaced (Or.inl (DependencyChange.parse_path hc)) (fun id hid => ?_)
        (c.apply_replaced r.now payload e.store), fun id hid => ?_⟩
      · exact Or.inr (DependencyChange.mem_of_wanted hid)
      · exact DependencyChange.contains_apply (DependencyChange.path_or_wanted hid) r.now payload e.store
    dsimp only
    split <;> exact ⟨hstore.adds, hstore.there⟩

theorem projectUpdate_takes (payload : Json) :
    Takes (ProjectUpdate.parse r.now e.config.projectRoot payload).paths e (e.projectUpdate r.now payload).1 where
  adds := ((ProjectUpdate.parse r.now e.config.projectRoot payload).adds_paths r.now e.store).mono fun _ => Or.inr
  there _ hid := (ProjectUpdate.parse r.now e.config.projectRoot payload).contains_paths r.now e.store hid

theorem inbound_takes (event : String) (payload : Json) :
    Takes (e.brings r.now (.inbound event payload)) e (e.inbound r event payload).1 := by
  simp only [inbound, brings]
  cases InboundEvent.ofName? event with
  | none => exact Takes.same rfl
  | some kind =>
    cases kind with
    | fileChanged =>
      simp only [fileChanged]
      split <;> exact Takes.same rfl
    | dependenciesChanged => exact dependenciesChanged_takes r e payload
    | analysisUpdated =>
      simp only [analysisUpdated]
      split
      · exact Takes.same rfl
      · next update hu => exact Takes.trimmed (.edit (AnalysisUpdate.parse_path hu) _ _ _ _ _)
    | errorDetected => exact Takes.same rfl
    | agentUpdate =>
      simp only [agentUpdate]
      split <;> exact Takes.same rfl
    | projectUpdate => exact projectUpdate_takes r e payload

theorem projectPulled_takes (result : Except TransportError Json) :
    Takes (e.brings r.now (.answered .project result)) e (e.projectPulled r.now result).1 := by
  cases result with
  | ok payload =>
    simp only [projectPulled, brings]
    split
    · exact projectUpdate_takes r e payload
    · exact Takes.same rfl
  | error fault => cases fault <;> exact Takes.same rfl

/-- An analysis is kept under the path that it was asked for. -/
theorem applyAnalysis_takes (path : String) (response : Json) :
    Takes (if (AnalyzerResult.parse path response).isOk then [path] else []) e
      (e.applyAnalysis r.now path response).1 := by
  simp only [applyAnalysis]
  cases AnalyzerResult.parse path response with
  | error fault => exact Takes.same rfl
  | ok found =>
    have hstore : Takes [path] e { e with store := (found.apply r.now path response e.store).1 } := by
      refine ⟨.edit (Or.inr List.mem_cons_self) _ _ _ _ _, fun id hid => ?_⟩
      rw [List.mem_singleton.mp hid, AnalyzerResult.apply, Store.contains_eq, Store.node?_modify, if_pos rfl,
        Option.isSome_some]
    change Takes [path] e _
    dsimp only
    split <;> exact ⟨hstore.adds, hstore.there⟩

theorem analysisFinished_takes (path : String) (seq : Nat) (result : Except TransportError Json) :
    Takes (e.brings r.now (.answered (.analysis path seq) result)) e (e.analysisFinished r.now path seq result).1 := by
  simp only [analysisFinished]
  cases hcurrent : e.isCurrent path seq with
  | false =>
    cases result with
    | error fault => exact Takes.same rfl
    | ok response =>
      simp only [brings, hcurrent, Bool.false_and, Bool.false_eq_true, if_false]
      exact Takes.same rfl
  | true =>
    cases result with
    | error fault => exact Takes.same rfl
    | ok response =>
      simp only [brings, hcurrent, Bool.true_and, if_true]
      have htakes := applyAnalysis_takes r { e with pendingAnalyses := e.pendingAnalyses.erase path } path response
      exact ⟨htakes.adds, htakes.there⟩

theorem query_takes (ticket : Ticket) (q : Query) : Takes [] e (e.query r ticket q).1 := by
  cases q with
  | upsertNode data =>
    have hadds := GraphUpdate.direct_adds (u := .upsertNode data) rfl r.now e.store
    simp only [query, GraphUpdate.apply] at hadds ⊢
    split
    · exact Takes.same rfl
    · next id s hs =>
      rw [hs] at hadds
      exact Takes.trimmed hadds
  | upsertEdge data =>
    have hadds := GraphUpdate.direct_adds (u := .upsertEdge data) rfl r.now e.store
    simp only [query, GraphUpdate.apply] at hadds ⊢
    split
    · exact Takes.same rfl
    · next key s hs =>
      rw [hs] at hadds
      exact Takes.trimmed hadds
  | removeNode id =>
    have hadds := GraphUpdate.direct_adds (u := .removeNode id) rfl r.now e.store
    simp only [query, removeNode, GraphUpdate.apply] at hadds ⊢
    cases hr : e.store.removeNode r.now id with
    | error fault => exact Takes.same rfl
    | ok removed =>
      rw [hr] at hadds
      exact Takes.trimmed hadds
  | removeEdge source target =>
    have hadds := GraphUpdate.direct_adds (u := .removeEdge source target) rfl r.now e.store
    simp only [query, GraphUpdate.apply] at hadds ⊢
    split
    · exact Takes.same rfl
    · next edge s hs =>
      rw [hs] at hadds
      exact Takes.trimmed hadds
  | nodeInfo id =>
    simp only [query, nodeInfo]
    split <;> exact Takes.same rfl
  | _ => exact Takes.same rfl

theorem batch_takes (ticket : Ticket) (items : List Json) : Takes [] e (e.batch r ticket items).1.1 := by
  by_cases h : items.length > e.config.batchDeferThreshold
  · simp only [batch, if_pos h]
    exact Takes.same rfl
  · simp only [batch_at_once r e ticket h]
    refine Takes.trimmed ?_
    rw [foldl_forgetNode_store]
    exact .perform (fun a ha => (Verdict.accepted_direct a ha).brings) e.store

theorem dispatch_takes (c : Command) : Takes (e.brings r.now c) e (e.dispatch r c).1.1 := by
  cases c with
  | inbound event payload => exact inbound_takes r e event payload
  | analysisDue path seq content =>
    simp only [dispatch, analysisDue_fst]
    exact Takes.same rfl
  | answered purpose result =>
    cases purpose with
    | analysis path seq => exact analysisFinished_takes r e path seq result
    | context ticket request => exact Takes.same rfl
    | project => exact projectPulled_takes r e result
  | ask ticket q => exact query_takes r e ticket q
  | batch ticket items => exact batch_takes r e ticket items
  | _ => exact Takes.same rfl

end Commands
end Engine

namespace Session
variable {s : Session}

/-- The names that a step brings in as they stand. -/
def brings (s : Session) : Step → List String
  | .handle r c => s.engine.brings r.now c
  | .chunk _ _ | .finish _ _ => []

theorem step_takes (h : s.Sound) (step : Step) : Engine.Takes (s.brings step) s.engine (s.step step).engine := by
  cases step with
  | handle r c =>
    obtain ⟨profiler, heq⟩ := Engine.handle_eq r s.engine c
    have htakes := Engine.dispatch_takes r s.engine c
    simp only [Session.step, heq]
    exact ⟨⟨htakes.adds.node, htakes.adds.edge⟩, htakes.there⟩
  | chunk r place =>
    simp only [Session.step, brings]
    cases hrun : s.batches[place]? with
    | none => exact Engine.Takes.same rfl
    | some run =>
      have hsound := h.runs run (List.mem_of_getElem? hrun)
      simp only [Engine.runChunk_eq r.now s.engine hsound.pending hsound.removed, Engine.advance]
      refine Engine.Takes.dropDirty (Engine.Takes.trimmed ?_)
      rw [Engine.foldl_forgetNode_store]
      exact .perform (fun a ha => (Verdict.accepted_direct a ha).brings) s.engine.store
  | finish r place =>
    simp only [Session.step, brings]
    split <;> exact Engine.Takes.same rfl

/-- A step leaves only trimmed names exactly if it brings in no others. -/
theorem step_trimmed_iff (h : s.Sound) (htrimmed : s.engine.store.Trimmed) (step : Step) :
    (s.step step).engine.store.Trimmed ↔ ∀ name ∈ s.brings step, Text.IsTrimmed name := by
  have htakes := step_takes h step
  constructor
  · exact fun hafter name hname => hafter.node name (htakes.there name hname)
  · exact fun hnames => htakes.adds.trimmed htrimmed fun id hid => hid.elim (fun h => h) (hnames id)

/-- Along any run from the start, every stored name is trimmed between any two steps exactly if each name that a step
brings in as it stands is; and at any time, a stored node or edge is removed by the batch item that names it exactly if
the name is trimmed. -/
theorem names_trimmed_iff (config : Config) (steps : List Step) :
    ((∀ before after, steps = before ++ after → ((start config).after before).engine.store.Trimmed) ↔
      ∀ before step after, steps = before ++ step :: after →
        ∀ name ∈ ((start config).after before).brings step, Text.IsTrimmed name) ∧
    ∀ before now,
      let s := ((start config).after before).engine.store
      (∀ id, s.contains id = true →
        (((GraphUpdate.batchItem (nodeRemoval id)).apply now s).contains id = false ↔ Text.IsTrimmed id)) ∧
      ∀ a b e, s.edge? a b = some e →
        (((GraphUpdate.batchItem (edgeRemoval a b)).apply now s).edge? a b = none ↔
          Text.IsTrimmed a ∧ Text.IsTrimmed b) := by
  refine ⟨⟨?_, ?_⟩, fun before now => ⟨fun id hid => ?_, fun a b e he => ?_⟩⟩
  · intro htrimmed before step after heq
    have hbefore : ((start config).after before).engine.store.Trimmed := htrimmed before _ heq
    have hafter : (((start config).after before).step step).engine.store.Trimmed := by
      rw [← after_concat]
      exact htrimmed (before ++ [step]) after (by simp [heq])
    exact (step_trimmed_iff (after_sound (start_sound config) before) hbefore step).mp hafter
  · intro hbrings before
    induction before using List.reverseRecOn with
    | nil => exact fun _ _ => Store.empty_trimmed _
    | append_singleton before step ih =>
      intro after heq
      have heq' : steps = before ++ step :: after := by simp [heq]
      rw [after_concat]
      exact (step_trimmed_iff (after_sound (start_sound config) before) (ih _ heq') step).mpr
        (hbrings before step after heq')
  · exact GraphUpdate.nodeRemoval_removes_iff now _ hid
  · exact GraphUpdate.edgeRemoval_removes_iff now _ he

/-- A file is told to import something by a name with blanks around it. -/
def paddedImport : List Step :=
  [.handle ⟨⟨⟨2024, 1, 1⟩, 43200, 0⟩, 0, "fresh"⟩
    (.inbound "dependenciesChanged" (.obj [("dependencies", .arr [.str " b "]), ("path", .str "a")]))]

/-- What was imported is stored under that name and cannot be removed by it. -/
theorem paddedImport_stays :
    (¬ ∀ config steps, ((start config).after steps).engine.store.Trimmed) ∧
      ¬ ∀ config steps now id, ((start config).after steps).engine.store.contains id = true →
        ((GraphUpdate.batchItem (nodeRemoval id)).apply now ((start config).after steps).engine.store).contains id =
          false := by
  have hstored : ((start {}).after paddedImport).engine.store.contains " b " = true := by decide +kernel
  have hpadded : ¬ Text.IsTrimmed " b " := fun h => nomatch h.start ' ' rfl
  constructor
  · exact fun h => hpadded ((h {} paddedImport).node " b " hstored)
  · intro h
    have hremoved := h {} paddedImport ⟨⟨2024, 1, 1⟩, 43200, 0⟩ " b " hstored
    exact hpadded ((GraphUpdate.nodeRemoval_removes_iff _ _ hstored).mp hremoved)

end Session
end CodeGraph
