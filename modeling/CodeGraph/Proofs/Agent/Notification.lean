import Mathlib.Data.List.Basic
import CodeGraph.Proofs.Agent.Tracking
import CodeGraph.Proofs.Agent.Visibility
import CodeGraph.Proofs.Graph.Links
/-!
What agents are told when an analysis lands. Each agent to which the path is relevant gets one note, with
the metrics of the node and all its smells: the note does not look at what the agent is capable of.
-/
namespace CodeGraph

namespace AgentState

def note (a : AgentState) (path reason : String) (details : Json) : Json :=
  .obj [
    ("agentId", .str a.agentId),
    ("details", details),
    ("path", .str path),
    ("reason", .str reason),
    ("taskId", .ofOption .str a.taskId)]

def analysisNote (a : AgentState) (path : String) (metrics : Metrics) (smells : StringSet) : Json :=
  a.note path "analysis" (.obj [("metrics", metrics.write), ("smells", .ofSet smells)])

theorem analysisNote_inj {a : AgentState} {path : String} {metrics : Metrics} {smells smells' : StringSet} :
    a.analysisNote path metrics smells = a.analysisNote path metrics smells' ↔ smells = smells' := by
  constructor
  · intro h
    have hlists : smells.toList.map Json.str = smells'.toList.map Json.str := by
      simpa only [analysisNote, note, Json.ofSet, Json.obj.injEq, Json.arr.injEq, List.cons.injEq, Prod.mk.injEq,
        true_and, and_true] using h
    exact Std.ExtTreeSet.toList_inj.mp ((List.map_inj_right fun _ _ heq => Json.str.inj heq).mp hlists)
  · rintro rfl
    rfl

end AgentState

/-- What an effect notifies the agent of that id of. -/
def Effect.told? (id : String) : Effect → Option Json
  | .emit .agentNotification payload =>
    if (payload.get? "agentId").bind Json.str? = some id then some payload else none
  | _ => none

/-- The notes to an agent among some effects. -/
def told (id : String) (effects : List Effect) : List Json := effects.filterMap (·.told? id)

theorem told?_note (id : String) (a : AgentState) (path reason : String) (details : Json) :
    (Effect.emit .agentNotification (a.note path reason details)).told? id =
      if a.agentId = id then some (a.note path reason details) else none := by
  have hid : ((a.note path reason details).get? "agentId").bind Json.str? = some a.agentId := rfl
  simp only [Effect.told?, hid, Option.some.injEq]

/-- A key that is stored has one place in the list of entries. -/
theorem filter_toList_eq {β : Type} {m : Std.ExtTreeMap String β} {k : String} {v : β} (h : m[k]? = some v) :
    m.toList.filter (·.1 == k) = [(k, v)] := by
  have hdistinct := Std.ExtTreeMap.distinct_keys_toList (t := m)
  obtain ⟨before, after, heq⟩ := List.append_of_mem (Std.ExtTreeMap.mem_toList_iff_getElem?_eq_some.mpr h)
  rw [heq, List.pairwise_append, List.pairwise_cons] at hdistinct
  simp only [Std.compare_eq_iff_eq] at hdistinct
  obtain ⟨-, ⟨hafter, -⟩, hbefore⟩ := hdistinct
  have hb : before.filter (·.1 == k) = [] := by
    rw [List.filter_eq_nil_iff]
    intro p hp
    simpa using hbefore p hp (k, v) List.mem_cons_self
  have ha : after.filter (·.1 == k) = [] := by
    rw [List.filter_eq_nil_iff]
    intro p hp
    simpa using Ne.symm (hafter p hp)
  simp [heq, List.filter_append, hb, ha]

namespace Engine
variable {e e' : Engine} {path id : String} {a : AgentState}

/-- Of an event about a path that is relevant to it an agent is notified once. -/
theorem told_notifyAgents (h : e.KnowsById) (ha : e.agents[id]? = some a) (hfile : path ∈ a.relevantFiles)
    (reason : String) (details : Json) :
    told id (e.notifyAgents path reason details) = [a.note path reason details] := by
  have hkey : ∀ p ∈ e.agents.toList, p.2.agentId = p.1 := fun p hp =>
    h p.1 p.2 (Std.ExtTreeMap.mem_toList_iff_getElem?_eq_some.mp hp)
  have hnote : ∀ p ∈ e.agents.toList.filter (·.2.relevantFiles.contains path),
      (Effect.emit .agentNotification (p.2.note path reason details)).told? id =
        if (p.1 == id) = true then some (p.2.note path reason details) else none := by
    intro p hp
    rw [told?_note, hkey p (List.mem_filter.mp hp).1]
    simp only [beq_iff_eq]
  have hswap : (e.agents.toList.filter (·.2.relevantFiles.contains path)).filter (·.1 == id) =
      (e.agents.toList.filter (·.1 == id)).filter (·.2.relevantFiles.contains path) := by
    simp only [List.filter_filter, Bool.and_comm]
  calc told id (e.notifyAgents path reason details)
      = (e.agents.toList.filter (·.2.relevantFiles.contains path)).filterMap fun p =>
          (Effect.emit .agentNotification (p.2.note path reason details)).told? id := by
        simp only [told, notifyAgents, List.filter_map, List.filterMap_map, Function.comp_def]
        rfl
    _ = ((e.agents.toList.filter (·.2.relevantFiles.contains path)).filter (·.1 == id)).map fun p =>
          p.2.note path reason details := by
        rw [List.filterMap_congr hnote, ← List.filterMap_eq_map']
        exact List.filterMap_filter.symm
    _ = [a.note path reason details] := by
        rw [hswap, filter_toList_eq ha]
        simp [hfile]

/-- The reply of the content analyzer is the one that is awaited, and it is understood. -/
structure Accepts (e : Engine) (path : String) (seq : Nat) (response : Json) (found : AnalyzerResult) : Prop where
  current : e.isCurrent path seq = true
  parsed : AnalyzerResult.parse path response = .ok found

/-- The node that a result leaves at a path. -/
def landed (e : Engine) (path : String) (found : AnalyzerResult) : Node :=
  found.merge (e.store.nodeOr path Node.fileKind)

theorem nodeOr_metrics (s : Store) (id kind : String) :
    (s.nodeOr id kind).metrics = ((s.node? id).map Node.metrics).getD {} := by
  unfold Store.nodeOr
  cases s.node? id <;> rfl

variable {seq : Nat} {response : Json} {found : AnalyzerResult}

theorem node?_landed (now : Time) (e : Engine) (path : String) (response : Json) (found : AnalyzerResult) :
    (found.apply now path response e.store).1.node? path = some (e.landed path found) := by
  rw [AnalyzerResult.apply, Store.node?_modify, if_pos rfl]
  rfl

theorem told_landed (r : Reading) (hknown : e.KnowsById) (h : e.Accepts path seq response found)
    (ha : e.agents[id]? = some a) (hfile : path ∈ a.relevantFiles) :
    told id (e.handle r (.answered (.analysis path seq) (.ok response))).1.2 =
      [a.analysisNote path (e.landed path found).metrics (e.landed path found).analysis.smells] := by
  have hnotes := told_notifyAgents hknown ha hfile "analysis"
    (.obj [("metrics", (e.landed path found).metrics.write), ("smells", .ofSet (e.landed path found).analysis.smells)])
  simp only [handle_effects, dispatch, analysisFinished, h.current, if_true, applyAnalysis, h.parsed, node?_landed,
    landAnalysis]
  exact hnotes

end Engine

def AnalyzerResult.withoutSmells (found : AnalyzerResult) : AnalyzerResult := { found with smells := [] }

namespace Engine

/-- Engines with the same agents, and a result for each: what they have at the path differs only in smells, and so
do the results. -/
structure SameButSmells (path : String) (e e' : Engine) (found found' : AnalyzerResult) : Prop where
  agents : e'.agents = e.agents
  node : (e.store.node? path).map Node.withoutSmells = (e'.store.node? path).map Node.withoutSmells
  found : found.withoutSmells = found'.withoutSmells

/-- What an agent is told when the analyzer's reply is handled. -/
def notesTo (id : String) (r : Reading) (e : Engine) (path : String) (seq : Nat) (response : Json) : List Json :=
  told id (e.handle r (.answered (.analysis path seq) (.ok response))).1.2

/-- A view of the nodes that touches nothing but smells. -/
theorem SameButSmells.of_view (e : Engine) (path : String) {f : Node → Node} {found found' : AnalyzerResult}
    (hf : Node.withoutSmells ∘ f = Node.withoutSmells) (hfound : found.withoutSmells = found'.withoutSmells) :
    SameButSmells path e { e with store := e.store.viewed f } found found' where
  agents := rfl
  node := by
    have hnode : (e.store.viewed f).node? path = (e.store.node? path).map f := Std.ExtTreeMap.getElem?_map
    rw [hnode, Option.map_map, hf]
  found := hfound

theorem SameButSmells.metrics {e e' : Engine} {path : String} {found found' : AnalyzerResult}
    (h : SameButSmells path e e' found found') : (e'.landed path found').metrics = (e.landed path found).metrics := by
  have hstored : (e.store.node? path).map Node.metrics = (e'.store.node? path).map Node.metrics := by
    have hsame := congrArg (Option.map Node.metrics) h.node
    rw [Option.map_map, Option.map_map] at hsame
    exact hsame
  have hvalues : found.metrics = found'.metrics := congrArg (·.metrics) h.found
  simp only [landed, AnalyzerResult.merge, nodeOr_metrics, hstored, hvalues]

end Engine

namespace Session
open Engine

/-- Where a node and a result differ only in smells from others, so do the notes to an agent; and they do differ
wherever the nodes have different smells afterwards, whatever the agent is capable of. -/
theorem told_alike_iff (config : Config) (steps : List Step) (r r' : Reading) {e' : Engine} {path id : String}
    {seq seq' : Nat} {response response' : Json} {found found' : AnalyzerResult} {a : AgentState} :
    let e := ((start config).after steps).engine
    SameButSmells path e e' found found' →
    e.Accepts path seq response found → e'.Accepts path seq' response' found' →
    e.agents[id]? = some a → path ∈ a.relevantFiles →
    let notes := e.notesTo id r path seq response
    let notes' := e'.notesTo id r' path seq' response'
    let smells := (e.landed path found).analysis.smells
    let smells' := (e'.landed path found').analysis.smells
    (∃ metrics, notes = [a.analysisNote path metrics smells] ∧ notes' = [a.analysisNote path metrics smells']) ∧
    (notes = notes' ↔ smells = smells') := by
  intro e hsame haccepts haccepts' ha hfile notes notes' smells smells'
  have hknown : e.KnowsById := after_knowsById config steps
  have hknown' : e'.KnowsById := by
    intro k b hb
    exact hknown k b (hsame.agents ▸ hb)
  have hnotes : notes = [a.analysisNote path (e.landed path found).metrics smells] :=
    told_landed r hknown haccepts ha hfile
  have hnotes' : notes' = [a.analysisNote path (e.landed path found).metrics smells'] :=
    hsame.metrics ▸ told_landed r' hknown' haccepts' (hsame.agents ▸ ha) hfile
  refine ⟨⟨_, hnotes, hnotes'⟩, ?_⟩
  rw [hnotes, hnotes', List.cons.injEq, AgentState.analysisNote_inj]
  exact and_iff_left rfl

def nextDay : Reading := ⟨⟨⟨2024, 1, 2⟩, 0, 0⟩, 5, "other"⟩

/-- An agent that writes documentation works on a file, which is stored and whose content changes. -/
def documenting : List Step :=
  let r : Reading := ⟨⟨⟨2024, 1, 1⟩, 43200, 0⟩, 0, "fresh"⟩
  [ .handle r (.inbound "agentUpdate" (.obj [("agentId", .str "scribe"), ("capabilities", .arr [.str "documentation"]),
      ("context", .obj [("relevantFiles", .arr [.str "a"])])])),
    .handle r (.ask 0 (.upsertNode (.obj [("id", .str "a"), ("type", .str "file")]))),
    .handle r (.contentChanged "a" "text")]

def scribed : Engine := ((start {}).after documenting).engine

def smellOnly (n : Node) : Node := { n with analysis := { n.analysis with smells := .ofList ["dead-code"] } }

/-- The same engine with a smell at every node. -/
def stale : Engine := { scribed with store := scribed.store.viewed smellOnly }

def smelly (names : List String) : AnalyzerResult := ⟨[], [], names, [], [], none⟩

def smellyReply (names : List String) : Json := .obj [("smells", .ofList .str names)]

theorem scribed_knows :
    ∃ a, scribed.agents["scribe"]? = some a ∧ a.capabilities = ["documentation"] ∧ "a" ∈ a.relevantFiles := by
  have hknown : (scribed.agents["scribe"]?.map fun a => (a.capabilities, a.relevantFiles)) =
      some (["documentation"], ["a"]) := by decide +kernel
  obtain ⟨a, ha, hfields⟩ := Option.map_eq_some_iff.mp hknown
  obtain ⟨hcapabilities, hfiles⟩ := Prod.mk.inj hfields
  exact ⟨a, ha, hcapabilities, hfiles ▸ List.mem_cons_self⟩

theorem scribed_isCurrent : scribed.isCurrent "a" 1 = true := by decide +kernel

theorem stale_isCurrent : stale.isCurrent "a" 1 = true := by decide +kernel

/-- One node has a smell that the other has not, and one result names a smell that the other does not. They leave
both nodes with the same smells, of which the agent is told alike. -/
theorem scribed_told_alike :
    SameButSmells "a" scribed stale (smelly ["dead-code", "todo"]) (smelly ["todo"]) ∧
    scribed.notesTo "scribe" nextDay "a" 1 (smellyReply ["dead-code", "todo"]) =
      stale.notesTo "scribe" nextDay "a" 1 (smellyReply ["todo"]) := by
  obtain ⟨a, ha, -, hfile⟩ := scribed_knows
  have hsame : SameButSmells "a" scribed stale (smelly ["dead-code", "todo"]) (smelly ["todo"]) :=
    .of_view scribed "a" (f := smellOnly) rfl rfl
  have hsmells : (scribed.landed "a" (smelly ["dead-code", "todo"])).analysis.smells =
      (stale.landed "a" (smelly ["todo"])).analysis.smells := by decide +kernel
  exact ⟨hsame, (told_alike_iff {} documenting nextDay nextDay hsame ⟨scribed_isCurrent, rfl⟩
    ⟨stale_isCurrent, rfl⟩ ha hfile).2.mpr hsmells⟩

/-- An agent that is not said to refactor is told of smells all the same. -/
theorem scribed_told_apart :
    ¬ ∀ (config : Config) (steps : List Step) (r r' : Reading) (e' : Engine) (path id : String) (seq seq' : Nat)
        (response response' : Json) (found found' : AnalyzerResult) (a : AgentState),
      let e := ((start config).after steps).engine
      SameButSmells path e e' found found' →
      e.Accepts path seq response found → e'.Accepts path seq' response' found' →
      e.agents[id]? = some a → path ∈ a.relevantFiles → Lacks a.capabilities "refactoring" →
      e.notesTo id r path seq response = e'.notesTo id r' path seq' response' := by
  intro h
  obtain ⟨a, ha, hcapabilities, hfile⟩ := scribed_knows
  have hlacks : Lacks a.capabilities "refactoring" := by
    rw [hcapabilities]
    decide
  have hknown : scribed.KnowsById := after_knowsById {} documenting
  have hclean : scribed.Accepts "a" 1 (smellyReply []) (smelly []) := ⟨scribed_isCurrent, rfl⟩
  have hsmelly : scribed.Accepts "a" 1 (smellyReply ["todo"]) (smelly ["todo"]) := ⟨scribed_isCurrent, rfl⟩
  have htold : scribed.notesTo "scribe" nextDay "a" 1 (smellyReply []) =
      scribed.notesTo "scribe" nextDay "a" 1 (smellyReply ["todo"]) :=
    h {} documenting nextDay nextDay scribed "a" "scribe" 1 1 (smellyReply []) (smellyReply ["todo"]) (smelly [])
      (smelly ["todo"]) a ⟨rfl, rfl, rfl⟩ hclean hsmelly ha hfile hlacks
  rw [notesTo, notesTo, told_landed nextDay hknown hclean ha hfile, told_landed nextDay hknown hsmelly ha hfile,
    List.cons.injEq] at htold
  have hsmells : (scribed.landed "a" (smelly [])).analysis.smells =
      (scribed.landed "a" (smelly ["todo"])).analysis.smells := AgentState.analysisNote_inj.mp htold.1
  exact absurd hsmells (by decide +kernel)

end Session
end CodeGraph
