import CodeGraph.Engine.Handle
import CodeGraph.Proofs.Graph.Changes
import CodeGraph.Proofs.Cache.Inherits
/-!
Commands that neither change a file's content, nor concern an analysis, nor remove or look up a
node. They leave pending analyses alone, remove nothing from the graph and add nothing to what is
cached of it.
-/
namespace CodeGraph

/-- A request to the content analyzer. -/
def Effect.asksAnalysis : Effect → Bool
  | .request .requestCodeAnalysis _ _ => true
  | _ => false

/-- None of some effects asks for an analysis. -/
def Calm (effects : List Effect) : Prop := ∀ f ∈ effects, f.asksAnalysis = false

namespace Calm

theorem nil : Calm [] := by simp [Calm]

theorem cons {f : Effect} {fs : List Effect} (h : f.asksAnalysis = false) (hs : Calm fs) : Calm (f :: fs) := by
  intro g hg
  rcases List.mem_cons.mp hg with rfl | hg
  · exact h
  · exact hs g hg

theorem append {fs gs : List Effect} (hf : Calm fs) (hg : Calm gs) : Calm (fs ++ gs) := by
  intro f h
  exact (List.mem_append.mp h).elim (hf f) (hg f)

theorem map {α : Type} (xs : List α) {f : α → Effect} (h : ∀ x, (f x).asksAnalysis = false) : Calm (xs.map f) := by
  intro g hg
  obtain ⟨x, -, rfl⟩ := List.mem_map.mp hg
  exact h x

end Calm

namespace Engine

theorem emitError_calm (fault : GraphError) : Calm (emitError fault) := by
  intro f hf
  obtain ⟨event, -, rfl⟩ := Option.map_eq_some_iff.mp (Option.mem_toList.mp hf)
  rfl

theorem flagAnomalies_calm (event : String) (anomalies : List String) : Calm (flagAnomalies event anomalies) := by
  unfold flagAnomalies
  split
  · exact Calm.nil
  · exact emitError_calm _

theorem tellAll_calm (subscribers : List Subscriber) (event : OutboundEvent) (value : Json) :
    Calm (tellAll subscribers event value) := by
  unfold tellAll
  refine (Calm.map subscribers fun _ => rfl).append ?_
  split
  · exact Calm.nil
  · exact flagAnomalies_calm _ _

theorem notifyAgents_calm (e : Engine) (path reason : String) (details : Json) :
    Calm (e.notifyAgents path reason details) := Calm.map _ fun _ => rfl

/-- An outcome that touches neither pending analyses nor what is cached of nodes, and removes no
node. -/
structure Quiet (now : Time) (e : Engine) (o : Outcome) : Prop where
  store : Store.Revised now e.store o.1.store
  derived : e.derivedCache.Inherits o.1.derivedCache
  pending : o.1.pendingAnalyses = e.pendingAnalyses
  seq : o.1.analysisSeq = e.analysisSeq
  calm : Calm o.2

namespace Quiet
variable {now : Time} {e e' : Engine} {effects : List Effect}

/-- The engine differs at most in parts that nothing here is about. -/
theorem same (hs : e'.store = e.store) (hd : e'.derivedCache = e.derivedCache)
    (hp : e'.pendingAnalyses = e.pendingAnalyses) (hq : e'.analysisSeq = e.analysisSeq) (hc : Calm effects) :
    Quiet now e (e', effects) where
  store := by
    rw [hs]
    exact Store.Revised.refl e.store
  derived := by
    rw [hd]
    exact Cache.Inherits.refl e.derivedCache
  pending := hp
  seq := hq
  calm := hc

theorem refl (hc : Calm effects) : Quiet now e (e, effects) := same rfl rfl rfl rfl hc

theorem revised {s : Store} (hs : Store.Revised now e.store s) (hc : Calm effects) :
    Quiet now e ({ e with store := s }, effects) where
  store := hs
  derived := Cache.Inherits.refl e.derivedCache
  pending := rfl
  seq := rfl
  calm := hc

end Quiet

section Handlers
variable (r : Reading) (e : Engine) (payload : Json)

theorem dependenciesChanged_quiet (now : Time) : Quiet now e (e.dependenciesChanged now payload) := by
  simp only [dependenciesChanged]
  split
  · exact Quiet.refl (emitError_calm _)
  · next change _ =>
    have hs := change.apply_revised now payload e.store
    split
    · exact Quiet.revised hs Calm.nil
    · exact Quiet.revised hs (notifyAgents_calm _ _ _ _)

theorem analysisUpdated_quiet (now : Time) : Quiet now e (e.analysisUpdated now payload) := by
  simp only [analysisUpdated]
  split
  · exact Quiet.refl (emitError_calm _)
  · next update _ => exact Quiet.revised (update.apply_revised now payload e.store) Calm.nil

theorem errorDetected_quiet (now : Time) : Quiet now e (e.errorDetected r payload) :=
  Quiet.same rfl rfl rfl rfl (Calm.cons rfl ((tellAll_calm _ _ _).append (flagAnomalies_calm _ _)))

theorem reportError_quiet (now : Time) (message : String) (stack : Option String) :
    Quiet now e (e.reportError r message stack) :=
  Quiet.same rfl rfl rfl rfl (Calm.cons rfl (tellAll_calm _ _ _))

theorem agentUpdate_quiet (now : Time) : Quiet now e (e.agentUpdate now payload) := by
  simp only [agentUpdate]
  split
  · exact Quiet.same rfl rfl rfl rfl (Calm.cons rfl ((tellAll_calm _ _ _).append (flagAnomalies_calm _ _)))
  · exact Quiet.same rfl rfl rfl rfl (Calm.cons rfl ((tellAll_calm _ _ _).append (flagAnomalies_calm _ _)))

theorem projectUpdate_quiet (now : Time) : Quiet now e (e.projectUpdate now payload) where
  store := ProjectUpdate.apply_revised now _ e.store
  derived := Cache.Inherits.refl e.derivedCache
  pending := rfl
  seq := rfl
  calm := Calm.cons rfl ((tellAll_calm _ _ _).append (flagAnomalies_calm _ _))

theorem projectPulled_quiet (now : Time) (result : Except TransportError Json) :
    Quiet now e (e.projectPulled now result) := by
  unfold projectPulled
  split
  · split
    · exact projectUpdate_quiet e _ now
    · exact Quiet.refl Calm.nil
  · exact Quiet.refl Calm.nil
  · exact Quiet.refl (emitError_calm _)

theorem contextArrived_calm (ticket : Ticket) (request : ContextRequest) (result : Except TransportError Json) :
    Calm (e.contextArrived ticket request result) := by
  simp only [contextArrived]
  split
  · exact (emitError_calm _).append (Calm.cons rfl Calm.nil)
  · split
    · exact (flagAnomalies_calm _ _).append (Calm.cons rfl Calm.nil)
    · exact Calm.cons rfl Calm.nil

theorem refuse_quiet (now : Time) (ticket : Ticket) (fault : ValidationError) (answer : Answer) :
    Quiet now e (e.refuse ticket fault answer) :=
  Quiet.refl ((emitError_calm _).append (Calm.cons rfl Calm.nil))

end Handlers

end Engine

/-- Queries that neither remove nor look up a node. -/
def Query.isQuiet : Query → Bool
  | .removeNode _ => false
  | .nodeInfo _ => false
  | _ => true

/-- Commands that are about neither contents, analyses nor batches, nor ask what is not quiet. -/
def Command.isQuiet : Command → Bool
  | .inbound event _ => InboundEvent.ofName? event != some .fileChanged
  | .contentChanged _ _ => false
  | .analysisDue _ _ _ => false
  | .answered (.analysis _ _) _ => false
  | .ask _ q => q.isQuiet
  | .batch _ _ => false
  | _ => true

/-- The commands that are not quiet. -/
inductive Command.IsActive : Command → Prop where
  | fileChanged {event : String} (payload : Json) :
    InboundEvent.ofName? event = some .fileChanged → IsActive (.inbound event payload)
  | contentChanged (path content : String) : IsActive (.contentChanged path content)
  | analysisDue (path : String) (seq : Nat) (content : String) : IsActive (.analysisDue path seq content)
  | analyzed (path : String) (seq : Nat) (result : Except TransportError Json) :
    IsActive (.answered (.analysis path seq) result)
  | removeNode (ticket : Ticket) (id : String) : IsActive (.ask ticket (.removeNode id))
  | nodeInfo (ticket : Ticket) (id : String) : IsActive (.ask ticket (.nodeInfo id))
  | batch (ticket : Ticket) (items : List Json) : IsActive (.batch ticket items)

theorem Command.quiet_or_active (c : Command) : c.isQuiet = true ∨ c.IsActive := by
  cases c with
  | inbound event payload =>
    by_cases h : InboundEvent.ofName? event = some .fileChanged
    · exact Or.inr (.fileChanged payload h)
    · exact Or.inl (bne_iff_ne.mpr h)
  | contentChanged path content => exact Or.inr (.contentChanged path content)
  | analysisDue path seq content => exact Or.inr (.analysisDue path seq content)
  | answered purpose result =>
    cases purpose with
    | analysis path seq => exact Or.inr (.analyzed path seq result)
    | _ => exact Or.inl rfl
  | ask ticket q =>
    cases q with
    | removeNode id => exact Or.inr (.removeNode ticket id)
    | nodeInfo id => exact Or.inr (.nodeInfo ticket id)
    | _ => exact Or.inl rfl
  | batch ticket items => exact Or.inr (.batch ticket items)
  | _ => exact Or.inl rfl

namespace Engine

theorem inbound_quiet (r : Reading) (e : Engine) (event : String) (payload : Json)
    (h : InboundEvent.ofName? event ≠ some .fileChanged) : Quiet r.now e (e.inbound r event payload) := by
  unfold inbound
  split
  · exact Quiet.refl Calm.nil
  · next hf => exact absurd hf h
  · exact dependenciesChanged_quiet e payload r.now
  · exact analysisUpdated_quiet e payload r.now
  · exact errorDetected_quiet r e payload r.now
  · exact agentUpdate_quiet e payload r.now
  · exact projectUpdate_quiet e payload r.now

theorem query_quiet (r : Reading) (e : Engine) (ticket : Ticket) (q : Query) (h : q.isQuiet = true) :
    Quiet r.now e (e.query r ticket q) := by
  have hanswer : ∀ a, Calm [Effect.answer ticket a] := fun a => Calm.cons rfl Calm.nil
  cases q with
  | upsertNode data =>
    simp only [query]
    split
    · exact refuse_quiet ..
    · next hu => exact Quiet.revised (Store.upsertNode_revised hu) (hanswer _)
  | upsertEdge data =>
    simp only [query]
    split
    · exact refuse_quiet ..
    · next hu => exact Quiet.revised (Store.upsertEdge_revised hu) (hanswer _)
  | removeEdge source target =>
    simp only [query]
    split
    · exact refuse_quiet ..
    · next hu => exact Quiet.revised (Store.removeEdge_revised hu) (hanswer _)
  | removeNode id => cases h
  | nodeInfo id => cases h
  | refreshContext agentId taskId => exact Quiet.refl (Calm.cons rfl Calm.nil)
  | _ => exact Quiet.same rfl rfl rfl rfl (hanswer _)

theorem dispatch_quiet (r : Reading) (e : Engine) {c : Command} (h : c.isQuiet = true) :
    Quiet r.now e (e.dispatch r c).1 ∧ (e.dispatch r c).2 = none := by
  cases c with
  | announce => exact ⟨Quiet.refl (Calm.cons rfl Calm.nil), rfl⟩
  | inbound event payload => exact ⟨inbound_quiet r e event payload (by simpa [Command.isQuiet] using h), rfl⟩
  | contentChanged path content => cases h
  | analysisDue path seq content => cases h
  | answered purpose result =>
    cases purpose with
    | analysis path seq => cases h
    | context ticket request => exact ⟨Quiet.refl (contextArrived_calm _ _ _ _), rfl⟩
    | project => exact ⟨projectPulled_quiet e r.now result, rfl⟩
  | ask ticket q => exact ⟨query_quiet r e ticket q h, rfl⟩
  | batch ticket items => cases h
  | startProfile id operations => exact ⟨Quiet.same rfl rfl rfl rfl Calm.nil, rfl⟩
  | subscribe topic subscriber => exact ⟨Quiet.same rfl rfl rfl rfl Calm.nil, rfl⟩
  | reportError message stack => exact ⟨reportError_quiet r e r.now message stack, rfl⟩
  | requestProject => exact ⟨Quiet.refl (Calm.cons rfl Calm.nil), rfl⟩
  | optimizeCaches =>
    refine ⟨?_, rfl⟩
    exact { store := .refl _, derived := Cache.optimize_inherits _ _, pending := rfl, seq := rfl, calm := .nil }
  | shutdown => exact ⟨Quiet.refl Calm.nil, rfl⟩

end Engine
end CodeGraph
