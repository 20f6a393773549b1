import CodeGraph.Proofs.Engine.Finite
import CodeGraph.Proofs.Engine.Landing
import CodeGraph.Proofs.Graph.Reordering
/-!
Who is notified. When an analysis lands or the imports of a file change, each agent whose last report lists the path
gets one note, in the order of the agents' ids, and nobody else does; a change of imports that leaves all nodes as
they were is not told.
-/
namespace CodeGraph

namespace DependencyChange
variable {c : DependencyChange} {s t : Store} {reported : StringSet}

/-- Exactly the nodes that are others afterwards are reported, as no stored metric is anything but finite. -/
theorem Replaced.mem_iff (h : c.Replaced s t reported) (hs : s.Finite) (x : String) :
    x ∈ reported ↔ t.node? x ≠ s.node? x := by
  rw [h.mem_changed, h.node, hs.beq_self]
  simp

theorem Replaced.isEmpty_iff (h : c.Replaced s t reported) (hs : s.Finite) :
    reported.isEmpty = true ↔ t.nodes = s.nodes := by
  rw [Std.ExtTreeSet.isEmpty_iff, Std.ExtTreeSet.eq_empty_iff_forall_not_mem]
  constructor
  · intro hnone
    refine Std.ExtTreeMap.ext_getElem? fun x => ?_
    exact Classical.not_not.mp fun hx => hnone x ((h.mem_iff hs x).mpr hx)
  · intro hnodes x hx
    exact (h.mem_iff hs x).mp hx (congrArg (·[x]?) hnodes)

end DependencyChange

namespace Engine

theorem mem_concerned {e : Engine} (h : e.KnowsById) {path : String} {a : AgentState} :
    a ∈ e.concerned path ↔ e.agents[a.agentId]? = some a ∧ path ∈ a.relevantFiles := by
  rw [concerned, List.mem_filter, List.contains_iff_mem]
  refine and_congr_left fun _ => ?_
  constructor
  · intro ha
    obtain ⟨⟨id, b⟩, hb, rfl⟩ := List.mem_map.mp ha
    have hstored : e.agents[id]? = some b := Std.ExtTreeMap.mem_toList_iff_getElem?_eq_some.mp hb
    rwa [h id b hstored]
  · intro ha
    exact List.mem_map.mpr ⟨(a.agentId, a), Std.ExtTreeMap.mem_toList_iff_getElem?_eq_some.mpr ha, rfl⟩

theorem concerned_sorted {e : Engine} (h : e.KnowsById) (path : String) :
    (e.concerned path).Pairwise (·.agentId < ·.agentId) := by
  refine List.Pairwise.filter _ (List.pairwise_map.mpr ?_)
  refine e.agents.ordered_keys_toList.imp_of_mem fun {p q} hp hq hlt => ?_
  have hid : ∀ p ∈ e.agents.toList, p.2.agentId = p.1 := fun p hp =>
    h p.1 p.2 (Std.ExtTreeMap.mem_toList_iff_getElem?_eq_some.mp hp)
  rw [hid p hp, hid q hq]
  exact compareOfLessAndEq_eq_lt.mp hlt

/-- An event that the imports of a file changed. -/
def rewiring (payload : Json) : Command := .inbound InboundEvent.dependenciesChanged.name payload

theorem dispatch_rewiring (r : Reading) (e : Engine) (payload : Json) :
    e.dispatch r (rewiring payload) = (e.dependenciesChanged r.now payload, none) := by
  have hevent : InboundEvent.ofName? InboundEvent.dependenciesChanged.name = some .dependenciesChanged := by decide
  simp only [rewiring, dispatch, inbound, hevent]

/-- A change of imports is told to the agents to whom its file is relevant, unless all nodes are as they were. -/
theorem rewiring_told {e : Engine} (now : Time) (h : e.store.Finite) (payload : Json) :
    let o := e.dependenciesChanged now payload
    (o.1.store.nodes = e.store.nodes → emitted .agentNotification o.2 = []) ∧
    (o.1.store.nodes ≠ e.store.nodes → ∃ c, DependencyChange.parse payload = .ok c ∧
      emitted .agentNotification o.2 = (e.concerned c.path).map
        (·.note c.path "dependencies" (.obj [("dependencies", .ofList .str c.dependencies)]))) := by
  simp only [dependenciesChanged]
  cases hparse : DependencyChange.parse payload with
  | error fault => exact ⟨fun _ => rfl, fun hne => absurd rfl hne⟩
  | ok c =>
    have hchanged := (c.apply_replaced now payload e.store).isEmpty_iff h
    dsimp only
    split
    · next hempty => exact ⟨fun _ => rfl, fun hne => absurd (hchanged.mp hempty) hne⟩
    · next hempty => exact ⟨fun heq => absurd (hchanged.mpr heq) hempty, fun _ => ⟨c, rfl, emitted_notifyAgents ..⟩⟩

end Engine

namespace Session
open Engine

theorem step_rewiring_store (s : Session) (r : Reading) (payload : Json) :
    (s.step (.handle r (rewiring payload))).engine.store =
      (s.engine.dependenciesChanged r.now payload).1.store.takeDirty.2 := by
  simp only [Session.step, handle_store, dispatch_rewiring]

/-- A change of imports that is delivered again leaves every node as it is. -/
theorem rewired_again {s : Session} {r : Reading} {payload : Json}
    (h : (s.step (.handle r (rewiring payload))).engine.store.Finite) (r' : Reading) :
    let t := s.step (.handle r (rewiring payload))
    (t.step (.handle r' (rewiring payload))).engine.store.nodes = t.engine.store.nodes := by
  intro t
  cases hparse : DependencyChange.parse payload with
  | error fault =>
    rw [step_rewiring_store, dependenciesChanged, hparse]
    rfl
  | ok c =>
    have hstore : ∀ (s : Session) r, (s.step (.handle r (rewiring payload))).engine.store =
        (c.apply r.now payload s.engine.store).1.takeDirty.2 := by
      intro s r
      rw [step_rewiring_store]
      simp only [dependenciesChanged, hparse]
      split <;> rfl
    have hmade := (c.apply_replaced r.now payload s.engine.store).settled
    have hsettled : c.Settled t.engine.store := by
      rw [hstore]
      exact ⟨hmade.imports, hmade.node, hmade.edge⟩
    rw [hstore, hsettled.apply_eq h]
    rfl

/-- What was reported last of the agent of that id. -/
def lastReport? (steps : List Step) (id : String) : Option AgentState :=
  ((steps.filterMap reported?).filter (·.agentId = id)).getLast?

theorem lastReport?_concat (steps : List Step) (step : Step) (id : String) :
    lastReport? (steps ++ [step]) id = match reported? step with
      | some a => if a.agentId = id then some a else lastReport? steps id
      | none => lastReport? steps id := by
  cases h : reported? step with
  | none => simp [lastReport?, h]
  | some a =>
    by_cases hid : a.agentId = id
    · simp [lastReport?, h, hid]
    · simp [lastReport?, h, hid]

/-- An agent is known as its last report has it. -/
theorem after_agents (config : Config) (steps : List Step) (id : String) :
    ((start config).after steps).engine.agents[id]? = lastReport? steps id := by
  induction steps using List.reverseRecOn with
  | nil => simp [start, Engine.empty, lastReport?]
  | append_singleton steps step ih =>
    rw [after_concat, step_agents, lastReport?_concat, ← ih]
    cases reported? step with
    | none => rfl
    | some a => simp only [track, Std.ExtTreeMap.getElem?_insert, Std.compare_eq_iff_eq]

/-- The agents whose last report lists a path, in the order of their ids. -/
structure Audience (steps : List Step) (path : String) (agents : List AgentState) : Prop where
  sorted : agents.Pairwise (·.agentId < ·.agentId)
  mem : ∀ a, a ∈ agents ↔ lastReport? steps a.agentId = some a ∧ path ∈ a.relevantFiles

theorem concerned_audience (config : Config) (steps : List Step) (path : String) :
    Audience steps path (((start config).after steps).engine.concerned path) where
  sorted := concerned_sorted (after_knowsById config steps) path
  mem a := by rw [mem_concerned (after_knowsById config steps), after_agents]

/-- Of an analysis that lands, and of a change of imports by which some node becomes another, exactly those agents are
notified whose last report lists the path, each once and in the order of their ids. Of a change that leaves all nodes
as they were nobody is. -/
theorem audience_notified (config : Config) (steps : List Step) (r : Reading) :
    let s := (start config).after steps
    (∀ c path found, s.engine.LandsAt c path found → ∃ agents, Audience steps path agents ∧
      emitted .agentNotification (s.effects (.handle r c)) = agents.map
        (·.analysisNote path (s.engine.landed path found).metrics (s.engine.landed path found).analysis.smells)) ∧
    ∀ payload,
      let step := Step.handle r (rewiring payload)
      ((s.step step).engine.store.nodes = s.engine.store.nodes →
        emitted .agentNotification (s.effects step) = []) ∧
      ((s.step step).engine.store.nodes ≠ s.engine.store.nodes → ∃ c agents,
        DependencyChange.parse payload = .ok c ∧ Audience steps c.path agents ∧
        emitted .agentNotification (s.effects step) = agents.map
          (·.note c.path "dependencies" (.obj [("dependencies", .ofList .str c.dependencies)]))) := by
  intro s
  constructor
  · intro c path found hlands
    refine ⟨_, concerned_audience config steps path, ?_⟩
    rw [effects, handle_effects, (dispatch_landed r hlands).2, emitted_emit, if_neg (by decide), emitted_notifyAgents]
    rfl
  · intro payload step
    obtain ⟨hsame, hother⟩ := rewiring_told r.now (@after_finite config steps) payload
    simp only [step, step_rewiring_store, effects, handle_effects, dispatch_rewiring]
    refine ⟨hsame, fun hne => ?_⟩
    obtain ⟨c, hparse, hnotes⟩ := hother hne
    exact ⟨c, _, hparse, concerned_audience config steps c.path, hnotes⟩

/-- Whom each note is for, and on which task. -/
def addressees (notes : List Json) : List (Option String × Option String) :=
  notes.map fun note => ((note.get? "agentId").bind Json.str?, (note.get? "taskId").bind Json.str?)

theorem addressees_notes (agents : List AgentState) (path reason : String) (details : Json) :
    addressees (agents.map (·.note path reason details)) = agents.map fun a => (some a.agentId, a.taskId) := by
  rw [addressees, List.map_map]
  refine List.map_congr_left fun a _ => Prod.ext rfl ?_
  have htask : (a.note path reason details).get? "taskId" = some (.ofOption .str a.taskId) := rfl
  simp only [Function.comp_apply, htask, Option.bind_some]
  cases a.taskId <;> rfl

/-- A report of an agent: on which task it is, and which files matter to it. -/
def reporting (agentId taskId : String) (files : List String) : Step :=
  .handle nextDay (.inbound InboundEvent.agentUpdate.name (.obj [("agentId", .str agentId),
    ("context", .obj [("relevantFiles", .ofList .str files)]), ("currentTask", .obj [("id", .str taskId)])]))

/-- Two agents that move on to other tasks, one of them with a file named twice, a new one and one without an id. -/
def crew : List Step :=
  [ reporting "scribe" "draft" ["b"], reporting "aide" "lint" ["a"], reporting "" "lost" ["a"],
    reporting "scribe" "review" ["a", "a"], reporting "aide" "format" ["b"], reporting "critic" "read" ["b", "a"],
    .handle nextDay (.contentChanged "a" "text")]

def importing : Step := .handle nextDay (rewiring (.obj [("dependencies", .arr [.str "b"]), ("path", .str "a")]))

theorem crew_notified :
    let s := (start {}).after crew
    let rewired := (start {}).after (crew ++ [importing])
    (∃ agents, Audience crew "a" agents ∧ addressees (emitted .agentNotification (s.effects smellyAnswer)) =
      agents.map fun a => (some a.agentId, a.taskId)) ∧
    addressees (emitted .agentNotification (s.effects smellyAnswer)) =
      [(some "critic", some "read"), (some "scribe", some "review")] ∧
    (∃ agents, Audience crew "a" agents ∧ addressees (emitted .agentNotification (s.effects importing)) =
      agents.map fun a => (some a.agentId, a.taskId)) ∧
    emitted .agentNotification (rewired.effects importing) = [] := by
  intro s rewired
  obtain ⟨hlanded, hrewired⟩ := audience_notified {} crew nextDay
  refine ⟨?_, by decide +kernel, ?_, ?_⟩
  · obtain ⟨agents, haudience, hnotes⟩ := hlanded (.answered (.analysis "a" 1) (.ok (smellyReply ["todo"]))) "a"
      (smelly ["todo"]) ⟨1, smellyReply ["todo"], rfl, by decide +kernel, rfl⟩
    exact ⟨agents, haudience, (congrArg addressees hnotes).trans (addressees_notes ..)⟩
  · have hchanged : (s.step importing).engine.store.nodes ≠ s.engine.store.nodes := by
      intro heq
      have hkeys := congrArg (·.keys) heq
      exact absurd hkeys (by decide +kernel)
    obtain ⟨c, agents, hparse, haudience, hnotes⟩ := (hrewired _).2 hchanged
    obtain rfl : ⟨"a", ["b"]⟩ = c := Except.ok.inj hparse
    exact ⟨agents, haudience, (congrArg addressees hnotes).trans (addressees_notes ..)⟩
  · have hsame : (rewired.step importing).engine.store.nodes = rewired.engine.store.nodes := by
      have hfinite := @after_finite {} (crew ++ [importing])
      simp only [rewired, after_concat] at hfinite ⊢
      exact rewired_again hfinite nextDay
    exact ((audience_notified {} (crew ++ [importing]) nextDay).2 _).1 hsame

end Session
end CodeGraph
