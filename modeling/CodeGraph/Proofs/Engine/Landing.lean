import CodeGraph.Proofs.Agent.Notification
import CodeGraph.Proofs.Engine.Announced
import CodeGraph.Proofs.Engine.Remembered
/-!
Analyses and the paths they were asked for. What lands for a path is announced and cached with the path of the node
that is stored there, and a cached analysis is that of the latest landing: it can be matched to what was asked for
exactly if the node had that path when it landed.
-/
namespace CodeGraph

namespace Engine
variable {e : Engine} {c : Command} {path : String} {found : AnalyzerResult}

/-- The command is the content analyzer's reply for a path, and it is accepted. -/
def LandsAt (e : Engine) (c : Command) (path : String) (found : AnalyzerResult) : Prop :=
  ∃ seq response, c = .answered (.analysis path seq) (.ok response) ∧ e.Accepts path seq response found

/-- What lands is cached and announced, and then the agents that it concerns are notified. -/
theorem dispatch_landed (r : Reading) (h : e.LandsAt c path found) :
    (e.dispatch r c).1.1.analysisCache =
      e.analysisCache.set path (.ofNode r.now (e.landed path found)) r.now.instant ∧
    (e.dispatch r c).1.2 = .emit .analyzeCode (AnalysisSnapshot.ofNode r.now (e.landed path found)).write ::
      e.notifyAgents path "analysis" (.obj [("metrics", (e.landed path found).metrics.write),
        ("smells", .ofSet (e.landed path found).analysis.smells)]) := by
  obtain ⟨seq, response, rfl, haccepts⟩ := h
  simp only [dispatch, analysisFinished, haccepts.current, if_true, applyAnalysis, haccepts.parsed, node?_landed]
  exact ⟨rfl, rfl⟩

section Inherits
variable (r : Reading) (e : Engine)

theorem foldl_forgetNode_inherits (ids : List String) :
    e.analysisCache.Inherits (ids.foldl forgetNode e).analysisCache := by
  intro key entry hentry
  rw [foldl_forgetNode, Cache.getElem?_foldl_erase] at hentry
  split at hentry
  · cases hentry
  · exact ⟨entry, hentry, rfl⟩

theorem advance_inherits (now : Time) (vs : List Verdict) : e.analysisCache.Inherits (e.advance now vs).analysisCache :=
  foldl_forgetNode_inherits { e with store := e.store.perform now (Verdict.accepted vs) } (Verdict.removed vs)

theorem query_inherits (ticket : Ticket) (q : Query) :
    e.analysisCache.Inherits (e.query r ticket q).1.analysisCache := by
  cases q with
  | upsertNode data =>
    simp only [query]
    split <;> exact .refl _
  | upsertEdge data =>
    simp only [query]
    split <;> exact .refl _
  | removeNode id =>
    simp only [query, removeNode]
    cases e.store.removeNode r.now id with
    | error fault => exact .refl _
    | ok removed => exact foldl_forgetNode_inherits { e with store := removed.2 } [id]
  | removeEdge source target =>
    simp only [query]
    split <;> exact .refl _
  | nodeInfo id =>
    simp only [query, nodeInfo]
    split <;> exact .refl _
  | analysis path => exact (Cache.get?_inherits _ _ _).1
  | _ => exact .refl _

theorem batch_inherits (ticket : Ticket) (items : List Json) :
    e.analysisCache.Inherits (e.batch r ticket items).1.1.analysisCache := by
  by_cases h : items.length > e.config.batchDeferThreshold
  · simp only [batch, if_pos h]
    exact .refl _
  · simp only [batch_at_once r e ticket h]
    exact foldl_forgetNode_inherits { e with store := _ } _

theorem analysisFinished_analysisCache {seq : Nat} {path : String} {result : Except TransportError Json}
    (h : ∀ response found, result = .ok response → ¬ e.Accepts path seq response found) :
    (e.analysisFinished r.now path seq result).1.analysisCache = e.analysisCache := by
  simp only [analysisFinished]
  split
  · next hcurrent =>
    cases result with
    | error fault => rfl
    | ok response =>
      simp only [applyAnalysis]
      split
      · rfl
      · next found hparsed => exact absurd ⟨hcurrent, hparsed⟩ (h response found rfl)
  · rfl

/-- Where nothing lands, every analysis that is cached was cached before. -/
theorem dispatch_inherits {c : Command} (h : ∀ path found, ¬ e.LandsAt c path found) :
    e.analysisCache.Inherits (e.dispatch r c).1.1.analysisCache := by
  cases c with
  | inbound event payload =>
    rw [dispatch, (inbound_keeps r e event payload).2]
    exact .refl _
  | analysisDue path seq content =>
    simp only [dispatch, analysisDue_fst]
    exact .refl _
  | answered purpose result =>
    cases purpose with
    | analysis path seq =>
      rw [dispatch, analysisFinished_analysisCache r e]
      · exact .refl _
      · rintro response found rfl haccepts
        exact h path found ⟨seq, response, rfl, haccepts⟩
    | context ticket request => exact .refl _
    | project =>
      rw [dispatch, (projectPulled_keeps r e result).2]
      exact .refl _
  | ask ticket q => exact query_inherits r e ticket q
  | batch ticket items => exact batch_inherits r e ticket items
  | optimizeCaches => exact Cache.optimize_inherits _ _
  | _ => exact .refl _

end Inherits

/-- A cached analysis is one that has just landed, or it was cached before and nothing landed for its path. -/
theorem dispatch_entry (r : Reading) {entry : CacheEntry AnalysisSnapshot}
    (h : (e.dispatch r c).1.1.analysisCache.entries[path]? = some entry) :
    (∃ found, e.LandsAt c path found ∧ entry.value = .ofNode r.now (e.landed path found)) ∨
    (∀ found, ¬ e.LandsAt c path found) ∧
      ∃ old, e.analysisCache.entries[path]? = some old ∧ old.value = entry.value := by
  by_cases hlands : ∃ other found, e.LandsAt c other found
  · obtain ⟨other, found, hlands⟩ := hlands
    rw [(dispatch_landed r hlands).1] at h
    rcases Cache.set_entry h with ⟨rfl, hvalue⟩ | ⟨hother, hold⟩
    · exact Or.inl ⟨found, hlands, hvalue⟩
    · refine Or.inr ⟨?_, entry, hold, rfl⟩
      rintro found' ⟨seq', response', rfl, -⟩
      obtain ⟨seq, response, heq, -⟩ := hlands
      cases heq
      exact hother rfl
  · have hnone : ∀ other found, ¬ e.LandsAt c other found := fun other found hl => hlands ⟨other, found, hl⟩
    exact Or.inr ⟨hnone path, dispatch_inherits r e hnone path entry h⟩

/-- What is stored under a path, if anything is, has that path. -/
def AtHome (e : Engine) (path : String) : Prop := ∀ n, e.store.node? path = some n → n.path = path

theorem landed_path_iff : (e.landed path found).path = path ↔ e.AtHome path := by
  have hpath : (e.landed path found).path = (e.store.nodeOr path Node.fileKind).path := rfl
  rw [hpath, Store.nodeOr, AtHome]
  cases hn : e.store.node? path with
  | none => simp [Node.ofId]
  | some n => simp

end Engine

/-- What is sent out under an event, in order. -/
def emitted (event : OutboundEvent) (effects : List Effect) : List Json :=
  ((announcementsOf effects).filter (·.event = event)).map (·.body)

theorem emitted_emit (event other : OutboundEvent) (body : Json) (fs : List Effect) :
    emitted event (.emit other body :: fs) = if other = event then body :: emitted event fs else emitted event fs := by
  simp only [emitted, announcementsOf_emit, List.filter_cons, decide_eq_true_eq]
  split <;> rfl

namespace Engine

/-- The agents to whom a path is relevant. -/
def concerned (e : Engine) (path : String) : List AgentState :=
  (e.agents.toList.map (·.2)).filter (·.relevantFiles.contains path)

/-- Of all that is sent out, notes to agents are the only thing that comes of notifying them. -/
theorem emitted_notifyAgents (e : Engine) (event : OutboundEvent) (path reason : String) (details : Json) :
    emitted event (e.notifyAgents path reason details) =
      if event = .agentNotification then (e.concerned path).map (·.note path reason details) else [] := by
  rw [notifyAgents, concerned]
  induction (e.agents.toList.map (·.2)).filter (·.relevantFiles.contains path) with
  | nil => simp [emitted, announcementsOf]
  | cons a rest ih =>
    rw [List.map_cons, emitted_emit, ih]
    cases event <;> rfl

end Engine

theorem AnalysisSnapshot.get?_write_path (a : AnalysisSnapshot) : a.write.get? "path" = some (.str a.path) := rfl

namespace Session
open Engine
variable {s : Session} {step : Step} {path : String}

/-- The step is the content analyzer's reply for a path, and it is accepted. -/
def LandsAt (s : Session) (step : Step) (path : String) : Prop :=
  ∃ r c found, step = .handle r c ∧ s.engine.LandsAt c path found

theorem step_entry (h : s.Sound) {entry : CacheEntry AnalysisSnapshot}
    (hentry : (s.step step).engine.analysisCache.entries[path]? = some entry) :
    (s.LandsAt step path ∧ (entry.value.path = path ↔ s.engine.AtHome path)) ∨
    ¬ s.LandsAt step path ∧ ∃ old, s.engine.analysisCache.entries[path]? = some old ∧ old.value = entry.value := by
  cases step with
  | handle r c =>
    obtain ⟨profiler, heq⟩ := handle_eq r s.engine c
    simp only [Session.step, heq] at hentry
    rcases dispatch_entry r hentry with ⟨found, hlands, hvalue⟩ | ⟨hnone, hold⟩
    · refine Or.inl ⟨⟨r, c, found, rfl, hlands⟩, ?_⟩
      rw [hvalue]
      exact @landed_path_iff s.engine path found
    · refine Or.inr ⟨?_, hold⟩
      rintro ⟨r', c', found, hstep, hlands⟩
      cases hstep
      exact hnone found hlands
  | chunk r place =>
    refine Or.inr ⟨by simp [LandsAt], ?_⟩
    simp only [Session.step] at hentry
    cases hrun : s.batches[place]? with
    | none => exact ⟨entry, by rwa [hrun] at hentry, rfl⟩
    | some run =>
      have hsound := h.runs run (List.mem_of_getElem? hrun)
      simp only [hrun, runChunk_eq r.now s.engine hsound.pending hsound.removed] at hentry
      exact advance_inherits s.engine r.now _ path entry hentry
  | finish r place =>
    refine Or.inr ⟨by simp [LandsAt], entry, ?_, rfl⟩
    simp only [Session.step] at hentry
    split at hentry <;> exact hentry

/-- The analysis that a landing announces. -/
theorem emitted_landed (h : s.LandsAt step path) : ∃ body, emitted .analyzeCode (s.effects step) = [body] ∧
    (body.get? "path" = some (.str path) ↔ s.engine.AtHome path) := by
  obtain ⟨r, c, found, rfl, hlands⟩ := h
  refine ⟨(AnalysisSnapshot.ofNode r.now (s.engine.landed path found)).write, ?_, ?_⟩
  · rw [effects, handle_effects, (dispatch_landed r hlands).2, emitted_emit, emitted_notifyAgents]
    rfl
  · rw [AnalysisSnapshot.get?_write_path, Option.some.injEq, Json.str.injEq]
    exact @landed_path_iff s.engine path found

/-- Of all steps of a run at which a result lands for the path, the last one found this engine. -/
def LastLanding (s : Session) (steps : List Step) (path : String) (e : Engine) : Prop :=
  ∃ before step since, steps = before ++ step :: since ∧ (s.after before).LandsAt step path ∧
    (s.after before).engine = e ∧
    ∀ mid next rest, since = mid ++ next :: rest → ¬ (s.after (before ++ step :: mid)).LandsAt next path

theorem LastLanding.of_step {steps : List Step} (h : (s.after steps).LandsAt step path) :
    s.LastLanding (steps ++ [step]) path (s.after steps).engine := by
  refine ⟨steps, step, [], rfl, h, rfl, ?_⟩
  intro mid next rest heq
  simp at heq

theorem LastLanding.concat {steps : List Step} {e : Engine} (h : s.LastLanding steps path e)
    (hstep : ¬ (s.after steps).LandsAt step path) : s.LastLanding (steps ++ [step]) path e := by
  obtain ⟨before, landing, since, rfl, hlands, he, hsince⟩ := h
  refine ⟨before, landing, since ++ [step], by simp, hlands, he, ?_⟩
  intro mid next rest heq
  rcases List.eq_nil_or_concat rest with rfl | ⟨rest', last, rfl⟩
  · obtain ⟨rfl, hnext⟩ := List.append_inj' heq rfl
    cases hnext
    exact hstep
  · rw [List.concat_eq_append, ← List.cons_append, ← List.append_assoc] at heq
    exact hsince mid next rest' (List.append_inj' heq rfl).1

/-- A cached analysis is that of the last landing for its path. -/
theorem after_cached (config : Config) (steps : List Step) {entry : CacheEntry AnalysisSnapshot}
    (h : ((start config).after steps).engine.analysisCache.entries[path]? = some entry) :
    ∃ e, (start config).LastLanding steps path e ∧ (entry.value.path = path ↔ e.AtHome path) := by
  induction steps using List.reverseRecOn generalizing entry with
  | nil => simp [start, Engine.empty, Cache.empty] at h
  | append_singleton steps step ih =>
    rw [after_concat] at h
    rcases step_entry (after_sound (start_sound config) steps) h with ⟨hlands, hpath⟩ | ⟨hnone, old, hold, hvalue⟩
    · exact ⟨_, .of_step hlands, hpath⟩
    · obtain ⟨e, hlast, hpath⟩ := ih hold
      exact ⟨e, hlast.concat hnone, hvalue ▸ hpath⟩

/-- Each result that lands is announced once, and what is cached for a path is from the last landing for it. Either
has the path that was asked for exactly if what was stored under that path then, if anything, had it too. -/
theorem attributed_iff (config : Config) (steps : List Step) :
    let s := (start config).after steps
    (∀ step path, s.LandsAt step path → ∃ body, emitted .analyzeCode (s.effects step) = [body] ∧
      (body.get? "path" = some (.str path) ↔ s.engine.AtHome path)) ∧
    ∀ path entry, s.engine.analysisCache.entries[path]? = some entry →
      ∃ e, (start config).LastLanding steps path e ∧ (entry.value.path = path ↔ e.AtHome path) :=
  ⟨fun _ _ => emitted_landed, fun _ _ => after_cached config steps⟩

/-- A node whose path is not its id, and a change of content under its id. -/
def displaced : List Step :=
  [ .handle nextDay (.ask 0 (.upsertNode (.obj [("id", .str "a"), ("path", .str "b"), ("type", .str "file")]))),
    .handle nextDay (.contentChanged "a" "text")]

def smellyAnswer : Step := .handle nextDay (.answered (.analysis "a" 1) (.ok (smellyReply ["todo"])))

/-- In a file that was not moved the analysis lands at home, and so it is announced and cached. -/
theorem documenting_attributed :
    let s := (start {}).after documenting
    let landed := (start {}).after (documenting ++ [smellyAnswer])
    (∃ body, emitted .analyzeCode (s.effects smellyAnswer) = [body] ∧ body.get? "path" = some (.str "a")) ∧
    ∃ entry e, landed.engine.analysisCache.entries["a"]? = some entry ∧ entry.value.path = "a" ∧
      (start {}).LastLanding (documenting ++ [smellyAnswer]) "a" e ∧ e.AtHome "a" := by
  intro s landed
  have hhome : s.engine.AtHome "a" := by
    intro n hn
    have hpath : (s.engine.store.node? "a").map Node.path = some "a" := by decide +kernel
    rw [hn] at hpath
    exact Option.some.inj hpath
  have hlands : s.LandsAt smellyAnswer "a" :=
    ⟨nextDay, _, smelly ["todo"], rfl, 1, smellyReply ["todo"], rfl, scribed_isCurrent, rfl⟩
  obtain ⟨body, heffects, hbody⟩ := (attributed_iff {} documenting).1 smellyAnswer "a" hlands
  refine ⟨⟨body, heffects, hbody.mpr hhome⟩, ?_⟩
  have hcached : (landed.engine.analysisCache.entries["a"]?.map (·.value.path)) = some "a" := by decide +kernel
  obtain ⟨entry, hentry, hpath⟩ := Option.map_eq_some_iff.mp hcached
  obtain ⟨e, hlast, hentry_iff⟩ := (attributed_iff {} (documenting ++ [smellyAnswer])).2 "a" entry hentry
  exact ⟨entry, e, hentry, hpath, hlast, hentry_iff.mp hpath⟩

/-- The analysis of a file under its id has the path that another upsert gave the node. -/
theorem displaced_misattributed :
    ¬ ∀ (config : Config) (steps : List Step) (step : Step) (path : String),
      let s := (start config).after steps
      s.LandsAt step path →
      (∀ body ∈ emitted .analyzeCode (s.effects step), body.get? "path" = some (.str path)) ∧
      ∀ entry, (s.step step).engine.analysisCache.entries[path]? = some entry → entry.value.path = path := by
  intro h
  have hlands : ((start {}).after displaced).LandsAt smellyAnswer "a" :=
    ⟨nextDay, _, smelly ["todo"], rfl, 1, smellyReply ["todo"], rfl, by decide +kernel, rfl⟩
  have hcached : ((((start {}).after displaced).step smellyAnswer).engine.analysisCache.entries["a"]?.map
      (·.value.path)) = some "b" := by decide +kernel
  obtain ⟨entry, hentry, hpath⟩ := Option.map_eq_some_iff.mp hcached
  have hasked := (h {} displaced smellyAnswer "a" hlands).2 entry hentry
  rw [hpath] at hasked
  exact absurd hasked (by decide)

end Session
end CodeGraph
