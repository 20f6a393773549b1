import Mathlib.Data.List.Induction
import CodeGraph.Proofs.Engine.Session
/-!
The agents that an engine keeps track of. Only a report of an agent with an id changes what is known, and
it replaces what was known of that agent.
-/
namespace CodeGraph

/-- The agent that a command reports, unless it gives no id. -/
def Command.reported? (now : Time) : Command → Option AgentState
  | .inbound event payload =>
    if InboundEvent.ofName? event = some .agentUpdate then
      let a := (AgentState.parse now payload).value
      if a.agentId.isEmpty then none else some a
    else none
  | _ => none

namespace Engine

/-- The agents that are known once one has been reported. -/
def track (e : Engine) (reported : Option AgentState) : Std.ExtTreeMap String AgentState :=
  match reported with
  | some a => e.agents.insert a.agentId a
  | none => e.agents

theorem inbound_agents (r : Reading) (e : Engine) (event : String) (payload : Json) :
    (e.inbound r event payload).1.agents = e.track ((Command.inbound event payload).reported? r.now) := by
  simp only [inbound, Command.reported?]
  cases hevent : InboundEvent.ofName? event with
  | none => rfl
  | some kind =>
    cases kind with
    | fileChanged =>
      simp only [fileChanged]
      split <;> rfl
    | dependenciesChanged =>
      simp only [dependenciesChanged]
      split
      · rfl
      · split <;> rfl
    | analysisUpdated =>
      simp only [analysisUpdated]
      split <;> rfl
    | errorDetected => rfl
    | projectUpdate => rfl
    | agentUpdate =>
      simp only [agentUpdate, if_true]
      split <;> rfl

theorem projectPulled_agents (now : Time) (e : Engine) (result : Except TransportError Json) :
    (e.projectPulled now result).1.agents = e.agents := by
  unfold projectPulled
  split
  · split <;> rfl
  · rfl
  · rfl

theorem analysisFinished_agents (now : Time) (e : Engine) (path : String) (seq : Nat)
    (result : Except TransportError Json) : (e.analysisFinished now path seq result).1.agents = e.agents := by
  simp only [analysisFinished, applyAnalysis]
  split
  · split
    · rfl
    · split
      · rfl
      · split <;> rfl
  · rfl

theorem forgetRemoved_agents (e : Engine) (run : BatchRun) : (e.forgetRemoved run).1.agents = e.agents := by
  simp only [forgetRemoved, foldl_forgetNode]

theorem query_agents (r : Reading) (e : Engine) (ticket : Ticket) (q : Query) :
    (e.query r ticket q).1.agents = e.agents := by
  cases q with
  | upsertNode data =>
    simp only [query]
    split <;> rfl
  | upsertEdge data =>
    simp only [query]
    split <;> rfl
  | removeNode id =>
    simp only [query, removeNode]
    cases e.store.removeNode r.now id <;> rfl
  | removeEdge source target =>
    simp only [query]
    split <;> rfl
  | nodeInfo id =>
    simp only [query, nodeInfo]
    cases e.store.node? id <;> rfl
  | _ => rfl

theorem dispatch_agents (r : Reading) (e : Engine) (c : Command) :
    (e.dispatch r c).1.1.agents = e.track (c.reported? r.now) := by
  cases c with
  | inbound event payload => exact inbound_agents r e event payload
  | analysisDue path seq content => rw [dispatch, analysisDue_fst]; rfl
  | answered purpose result =>
    cases purpose with
    | analysis path seq => exact analysisFinished_agents r.now e path seq result
    | context ticket request => rfl
    | project => exact projectPulled_agents r.now e result
  | ask ticket q => exact query_agents r e ticket q
  | batch ticket items =>
    simp only [dispatch, batch]
    split
    · rfl
    · exact forgetRemoved_agents _ _
  | _ => rfl

/-- Every agent is known under its own id. -/
def KnowsById (e : Engine) : Prop := ∀ id (a : AgentState), e.agents[id]? = some a → a.agentId = id

theorem KnowsById.track {e e' : Engine} (h : e.KnowsById) {reported : Option AgentState}
    (heq : e'.agents = e.track reported) : e'.KnowsById := by
  intro id a ha
  rw [heq] at ha
  cases reported with
  | none => exact h id a ha
  | some b =>
    simp only [Engine.track, Std.ExtTreeMap.getElem?_insert, Std.compare_eq_iff_eq] at ha
    split at ha
    · next hid =>
      cases ha
      exact hid
    · exact h id a ha

end Engine

namespace Session

/-- The agent that a step reports. -/
def reported? : Step → Option AgentState
  | .handle r c => c.reported? r.now
  | .chunk _ _ | .finish _ _ => none

theorem step_agents (s : Session) (step : Step) : (s.step step).engine.agents = s.engine.track (reported? step) := by
  cases step with
  | handle r c =>
    obtain ⟨profiler, heq⟩ := Engine.handle_eq r s.engine c
    simp only [Session.step, heq]
    exact Engine.dispatch_agents r s.engine c
  | chunk r place =>
    simp only [Session.step]
    split
    · rfl
    · exact Engine.forgetRemoved_agents _ _
  | finish r place =>
    simp only [Session.step]
    split <;> rfl

theorem after_knowsById (config : Config) (steps : List Step) : ((start config).after steps).engine.KnowsById := by
  induction steps using List.reverseRecOn with
  | nil =>
    intro id a ha
    simp [start, Engine.empty] at ha
  | append_singleton steps step ih =>
    rw [after_concat]
    exact ih.track (step_agents _ step)

end Session
end CodeGraph
