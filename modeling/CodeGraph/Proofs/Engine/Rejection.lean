import CodeGraph.Proofs.Engine.BatchItems
/-!
What is rejected leaves the engine as it is. A request that is refused, an event that cannot be read, an
analysis that failed and an item of a batch that is refused are each announced by one error, and nothing
else is told of them.
-/
namespace CodeGraph

namespace AnalyzerResult

/-- An answer of the analyzer that is no analysis. -/
inductive Malformed (response : Json) : Prop where
  | error {j : Json} : response.get? "error" = some j → j.isNull = false → Malformed response
  | metrics {j : Json} {fault : ValidationError} : response.get? "metrics" = some j → j.isNull = false →
    Payload.metrics j = .error fault → Malformed response
  | analysis {fault : Fault} : Findings.read ((response.get? "analysis").getD response) = .error fault →
    Malformed response

theorem parse_refused_iff (path : String) (response : Json) :
    (∃ fault, parse path response = .error fault) ↔ Malformed response := by
  have hfilter : ∀ {x : Option Json} {j : Json}, x.filter (!·.isNull) = some j ↔ x = some j ∧ j.isNull = false := by
    intro x j
    rw [Option.filter_eq_some_iff, Bool.not_eq_true']
  constructor
  · rintro ⟨fault, h⟩
    simp only [parse] at h
    split at h
    · next he => exact .error (hfilter.mp he).1 (hfilter.mp he).2
    · next he => exact .error (hfilter.mp he).1 (hfilter.mp he).2
    · split at h
      · split at h
        · next ha => exact .analysis ha
        · cases h
      · next hm =>
        split at h
        · split at h
          · next ha => exact .analysis ha
          · cases h
        · next hp => exact .metrics (hfilter.mp hm).1 (hfilter.mp hm).2 hp
  · intro h
    simp only [parse]
    split
    · exact ⟨_, rfl⟩
    · exact ⟨_, rfl⟩
    · next hnone =>
      cases h with
      | error hj hnull =>
        rw [hfilter.mpr ⟨hj, hnull⟩] at hnone
        cases hnone
      | metrics hj hnull hp =>
        rw [hfilter.mpr ⟨hj, hnull⟩]
        simp only [hp]
        exact ⟨_, rfl⟩
      | analysis ha =>
        split
        · simp only [ha]
          exact ⟨_, rfl⟩
        · split
          · simp only [ha]
            exact ⟨_, rfl⟩
          · exact ⟨_, rfl⟩

end AnalyzerResult

namespace Effect

def isError : Effect → Bool
  | .emit .error _ => true
  | _ => false

/-- Whether the agents or those who follow analyses are told something. -/
def isNews : Effect → Bool
  | .emit .analyzeCode _ | .emit .agentNotification _ => true
  | _ => false

end Effect

namespace Engine

/-- Effects that announce so many errors and tell no news. -/
structure Announces (count : Nat) (effects : List Effect) : Prop where
  errors : effects.countP Effect.isError = count
  news : ∀ f ∈ effects, f.isNews = false

namespace Announces

theorem append {m n : Nat} {fs gs : List Effect} (hf : Announces m fs) (hg : Announces n gs) :
    Announces (m + n) (fs ++ gs) where
  errors := by rw [List.countP_append, hf.errors, hg.errors]
  news f h := (List.mem_append.mp h).elim (hf.news f) (hg.news f)

theorem cons {n : Nat} {f : Effect} {fs : List Effect} (herror : f.isError = false) (hnews : f.isNews = false)
    (h : Announces n fs) : Announces n (f :: fs) where
  errors := by rw [List.countP_cons_of_neg (by simp [herror]), h.errors]
  news := List.forall_mem_cons.mpr ⟨hnews, h.news⟩

theorem silent {f : Effect} (herror : f.isError = false) (hnews : f.isNews = false) : Announces 0 [f] where
  errors := by simp [herror]
  news := by simpa using hnews

theorem fault (fault : GraphError) (h : fault.event?.isSome = true) : Announces 1 (emitError fault) := by
  obtain ⟨event, hevent⟩ := Option.isSome_iff_exists.mp h
  rw [emitError, hevent]
  exact ⟨rfl, by simp [Effect.isNews]⟩

theorem failures (report : BatchReport) : Announces report.failed.length (announceFailures report) where
  errors := by
    have hall : ∀ f ∈ announceFailures report, f.isError = true := by simp [announceFailures, Effect.isError]
    rw [List.countP_eq_length.mpr hall, announceFailures, List.length_map]
  news := by simp [announceFailures, Effect.isNews]

theorem closing (report : BatchReport) {f : Effect} (herror : f.isError = false) (hnews : f.isNews = false) :
    Announces report.failed.length (announceFailures report ++ [f]) := (failures report).append (silent herror hnews)

end Announces

/-- Commands that are rejected: requests that the stored graph refuses, events that cannot be read, and
answers to the newest change of a path that are no analysis. -/
inductive Rejects (now : Time) (e : Engine) : Command → Prop where
  | upsertNode {ticket : Ticket} {data : Json} {fault : ValidationError} :
    e.store.upsertNode now data = .error fault → Rejects now e (.ask ticket (.upsertNode data))
  | upsertEdge {ticket : Ticket} {data : Json} {fault : ValidationError} :
    e.store.upsertEdge now data = .error fault → Rejects now e (.ask ticket (.upsertEdge data))
  | removeNode {ticket : Ticket} {id : String} {fault : ValidationError} :
    e.store.removeNode now id = .error fault → Rejects now e (.ask ticket (.removeNode id))
  | removeEdge {ticket : Ticket} {source target : String} {fault : ValidationError} :
    e.store.removeEdge now source target = .error fault → Rejects now e (.ask ticket (.removeEdge source target))
  | fileChanged {event : String} {payload : Json} {fault : ValidationError} :
    InboundEvent.ofName? event = some .fileChanged → ContentChange.parse payload = .error fault →
    Rejects now e (.inbound event payload)
  | dependenciesChanged {event : String} {payload : Json} {fault : ValidationError} :
    InboundEvent.ofName? event = some .dependenciesChanged → DependencyChange.parse payload = .error fault →
    Rejects now e (.inbound event payload)
  | analysisUpdated {event : String} {payload : Json} {fault : ValidationError} :
    InboundEvent.ofName? event = some .analysisUpdated → AnalysisUpdate.parse now payload = .error fault →
    Rejects now e (.inbound event payload)
  | unanswered {path : String} {seq : Nat} (fault : TransportError) : e.isCurrent path seq = true →
    Rejects now e (.answered (.analysis path seq) (.error fault))
  | malformed {path : String} {seq : Nat} {response : Json} : e.isCurrent path seq = true →
    AnalyzerResult.Malformed response → Rejects now e (.answered (.analysis path seq) (.ok response))

/-- The engine without the change whose analysis a command answers. -/
def unawaited (e : Engine) : Command → Engine
  | .answered (.analysis path _) _ => { e with pendingAnalyses := e.pendingAnalyses.erase path }
  | _ => e

variable {r : Reading} {e : Engine} {c : Command}

theorem dispatch_rejected (h : e.Rejects r.now c) :
    ∃ effects, e.dispatch r c = ((e.unawaited c, effects), none) ∧ Announces 1 effects := by
  have hrefused : ∀ ticket fault answer, Announces 1 (e.refuse ticket fault answer).2 := fun _ _ _ =>
    (Announces.fault _ rfl).append (Announces.silent rfl rfl)
  have hinvalid : ∀ fault, Announces 1 (emitError (.validation fault)) := fun _ => Announces.fault _ rfl
  cases h with
  | @upsertNode ticket data fault h =>
    refine ⟨_, ?_, hrefused ticket fault (.nodeId (.error fault))⟩
    simp only [dispatch, query, h]
    rfl
  | @upsertEdge ticket data fault h =>
    refine ⟨_, ?_, hrefused ticket fault (.edgeKey (.error fault))⟩
    simp only [dispatch, query, h]
    rfl
  | @removeNode ticket id fault h =>
    refine ⟨_, ?_, hrefused ticket fault (.removal (.error fault))⟩
    simp only [dispatch, query, removeNode, h]
    rfl
  | @removeEdge ticket source target fault h =>
    refine ⟨_, ?_, hrefused ticket fault (.removal (.error fault))⟩
    simp only [dispatch, query, h]
    rfl
  | @fileChanged event payload fault hevent h =>
    refine ⟨_, ?_, hinvalid fault⟩
    simp only [dispatch, inbound, hevent, fileChanged, h]
    rfl
  | @dependenciesChanged event payload fault hevent h =>
    refine ⟨_, ?_, hinvalid fault⟩
    simp only [dispatch, inbound, hevent, dependenciesChanged, h]
    rfl
  | @analysisUpdated event payload fault hevent h =>
    refine ⟨_, ?_, hinvalid fault⟩
    simp only [dispatch, inbound, hevent, analysisUpdated, h]
    rfl
  | unanswered fault hcurrent =>
    refine ⟨_, ?_, Announces.fault (.transport fault) rfl⟩
    simp only [dispatch, analysisFinished, hcurrent, if_true]
    rfl
  | @malformed path seq response hcurrent hmalformed =>
    obtain ⟨fault, hfault⟩ := (AnalyzerResult.parse_refused_iff path response).mpr hmalformed
    refine ⟨_, ?_, Announces.fault (.analysis fault) rfl⟩
    simp only [dispatch, analysisFinished, hcurrent, if_true, applyAnalysis, hfault]
    rfl

/-- When the command has been handled, its time is recorded and changed nodes are dropped, as after
any other; between two commands there are none. -/
theorem handle_rejected (h : e.Rejects r.now c) :
    let recorded := { e.unawaited c with profiler := e.profiler.record c.operation r.elapsedNanos }
    e.handle r c = ((recorded.dropDirty, (e.dispatch r c).1.2), none) ∧
      (e.store.dirty = ∅ → (e.handle r c).1.1 = recorded) := by
  intro recorded
  obtain ⟨effects, hdispatch, -⟩ := dispatch_rejected h
  have hkept : (e.unawaited c).profiler = e.profiler ∧ (e.unawaited c).store = e.store := by
    unfold unawaited
    split <;> exact ⟨rfl, rfl⟩
  have hhandle : e.handle r c = ((recorded.dropDirty, (e.dispatch r c).1.2), none) := by
    simp only [handle, hdispatch, hkept.1, recorded]
  refine ⟨hhandle, fun hclean => ?_⟩
  have hdirty : recorded.store.dirty = ∅ := by rw [← hclean, ← hkept.2]
  rw [hhandle, dropDirty_of_clean hdirty]

end Engine

/-- Why an item of a batch is refused, if it is. -/
def BatchOperation.Refuses (now : Time) (s : Store) (item : Json) (fault : ValidationError) : Prop :=
  (BatchOperation.parse item >>= fun op => op.apply now s) = .error fault

namespace BatchRun

/-- The run when its next item has failed. -/
def failNext (run : BatchRun) (fault : ValidationError) : BatchRun :=
  { run with pending := run.pending.tail, failed := run.failed ++ [⟨run.next, fault.message⟩] }

/-- To try an item that is refused is to note its failure. -/
theorem tryItems_refused {now : Time} {run : BatchRun} {s : Store} {item : Json} {rest : List Json}
    {fault : ValidationError} (hnext : run.pending = item :: rest) (h : BatchOperation.Refuses now s item fault)
    (n : Nat) : tryItems now (n + 1) run s = tryItems now n (run.failNext fault) s := by
  have htry : tryItem now item run.next { run with pending := rest } s = (run.failNext fault, s) := by
    simp only [BatchOperation.Refuses, bind, Except.bind] at h
    simp only [tryItem, bind, Except.bind, failNext, hnext, List.tail_cons]
    cases hparse : BatchOperation.parse item with
    | error e =>
      simp only [hparse, Except.error.injEq] at h
      simp only [h]
    | ok op =>
      simp only [hparse] at h
      simp only [h]
  simp only [tryItems, hnext, htry]

end BatchRun

namespace Verdict
variable {now : Time} {s : Store} {item : Json} {fault : ValidationError}

theorem judge_refused (h : BatchOperation.Refuses now s item fault) : judge s item = .error fault := by
  simp only [BatchOperation.Refuses, BatchOperation.apply_eq, bind, Except.bind] at h
  simp only [judge, bind, Except.bind]
  cases hparse : BatchOperation.parse item with
  | error e =>
    simp only [hparse] at h
    simpa using h
  | ok op =>
    simp only [hparse] at h
    cases hplan : op.plan s with
    | error e => simpa [hplan, Except.map] using h
    | ok a => simp [hplan, Except.map] at h

/-- Items are judged as if one that is refused were not there. -/
theorem all_refused (before after : List Json)
    (h : judge (s.perform now (accepted (all now before s))) item = .error fault) :
    ∃ vs ws, all now (before ++ item :: after) s = vs ++ .error fault :: ws ∧ all now (before ++ after) s = vs ++ ws :=
  ⟨all now before s, all now after (s.perform now (accepted (all now before s))), by rw [all_append, all, h]; rfl,
    all_append ..⟩

end Verdict

namespace Engine
open Verdict

/-- A batch is handed in and worked off: at once, or chunk by chunk until it can be closed. -/
def submit (r : Reading) (clock : Nat → Time) (closingNanos : Nat) (e : Engine) (ticket : Ticket)
    (items : List Json) : Outcome :=
  match e.handle r (.batch ticket items) with
  | (outcome, none) => outcome
  | ((e, effects), some run) =>
    let (e, run) := runChunks clock e run (BatchRun.chunkCount items.length e.config.batchChunkSize)
    let (e, closing) := e.finishBatch closingNanos run
    (e, effects ++ closing)

theorem submit_eq (r : Reading) (clock : Nat → Time) (closingNanos : Nat) (e : Engine) (ticket : Ticket)
    (items : List Json) :
    (submit r clock closingNanos e ticket items).1.untimed =
        e.untimed.advance .erased (all .erased items e.untimed.store) ∧
      Announces (refusals 0 (all .erased items e.untimed.store)).length
        (submit r clock closingNanos e ticket items).2 := by
  by_cases h : items.length ≤ e.config.batchDeferThreshold
  · obtain ⟨hengine, heffects, hrun⟩ := handle_inline r e ticket h
    have hsubmit : submit r clock closingNanos e ticket items = (e.handle r (.batch ticket items)).1 := by
      unfold submit
      split
      · next hhandle => rw [hhandle]
      · next hhandle =>
        rw [hhandle] at hrun
        cases hrun
    rw [hsubmit, heffects]
    exact ⟨hengine, Announces.closing (.onFailures ..) rfl rfl⟩
  · have hall : all .erased items e.dropDirty.untimed.store = all .erased items e.untimed.store :=
      all_swept .erased items e.untimed.store
    obtain ⟨hengine, heffects⟩ := finishBatch_drained clock (e := e.dropDirty) rfl r.freshId items closingNanos
    rw [hall] at hengine heffects
    simp only [submit, handle_deferred r e ticket (Nat.not_le.mp h), List.singleton_append]
    refine ⟨hengine.trans (advance_dropDirty .erased e.untimed _), Announces.cons rfl rfl ?_⟩
    rw [heffects]
    exact Announces.closing (.onFailures ..) rfl rfl

theorem advance_congr (now : Time) (e : Engine) {vs ws : List Verdict} (h : accepted vs = accepted ws) :
    e.advance now vs = e.advance now ws := by
  simp only [advance, removed, h]

theorem submit_refused (r : Reading) (clock : Nat → Time) (closingNanos : Nat) (e : Engine) (ticket : Ticket)
    (before after : List Json) {item : Json} {fault : ValidationError}
    (h : BatchOperation.Refuses r.now (BatchRun.tryItems r.now before.length (.start r.freshId before false) e.store).2
      item fault) :
    let present := submit r clock closingNanos e ticket (before ++ item :: after)
    let absent := submit r clock closingNanos e ticket (before ++ after)
    SameButClock present.1 absent.1 ∧ ∃ count, Announces (count + 1) present.2 ∧ Announces count absent.2 := by
  intro present absent
  have hjudge : judge (e.store.perform r.now (accepted (all r.now before e.store))) item = .error fault := by
    have hs : (BatchRun.start r.freshId before false).pending.take before.length = before := List.take_length
    rw [BatchRun.tryItems_eq r.now _ _ _ (Nat.le_refl _), hs] at h
    exact judge_refused h
  obtain ⟨vs, ws, hpresent, habsent⟩ := all_refused before after hjudge
  obtain ⟨hengine, hannounces⟩ := submit_eq r clock closingNanos e ticket (before ++ item :: after)
  obtain ⟨hengine', hannounces'⟩ := submit_eq r clock closingNanos e ticket (before ++ after)
  have hall : ∀ items, all .erased items e.untimed.store = all r.now items e.store :=
    fun items => all_untimed r.now items e.store
  rw [hall, hpresent] at hengine hannounces
  rw [hall, habsent] at hengine' hannounces'
  have hsame : accepted (vs ++ .error fault :: ws) = accepted (vs ++ ws) := by
    rw [accepted_append, accepted_error, accepted_append]
  have hengines : present.1.untimed = absent.1.untimed :=
    hengine.trans ((advance_congr .erased e.untimed hsame).trans hengine'.symm)
  refine ⟨hengines, (refusals 0 (vs ++ ws)).length, ?_, hannounces'⟩
  -- as many items are accepted, of one item more
  have hcount : (refusals 0 (vs ++ .error fault :: ws)).length = (refusals 0 (vs ++ ws)).length + 1 := by
    have hp := length_accepted_add_refusals 0 (vs ++ .error fault :: ws)
    have ha := length_accepted_add_refusals 0 (vs ++ ws)
    rw [hsame] at hp
    simp only [List.length_append, List.length_cons] at hp ha
    omega
  rwa [hcount] at hannounces

/-- A command that is rejected leaves the engine as it was, but that the change of a path whose analysis
failed is no longer awaited, and is announced by one error and no news. An item of a batch that is refused
leaves the store to the items after it as it finds it, and the batch ends as it would without the item, but
for one more error when it is closed. -/
theorem rejected_changes_nothing (r : Reading) (e : Engine) :
    (∀ c, e.Rejects r.now c →
      let recorded := { e.unawaited c with profiler := e.profiler.record c.operation r.elapsedNanos }
      ∃ effects, e.dispatch r c = ((e.unawaited c, effects), none) ∧ Announces 1 effects ∧
        e.handle r c = ((recorded.dropDirty, effects), none) ∧
        (e.store.dirty = ∅ → (e.handle r c).1.1 = recorded)) ∧
    (∀ run item rest fault, run.pending = item :: rest → BatchOperation.Refuses r.now e.store item fault →
      ∀ n, BatchRun.tryItems r.now (n + 1) run e.store = BatchRun.tryItems r.now n (run.failNext fault) e.store) ∧
    ∀ ticket before item after fault clock closingNanos,
      BatchOperation.Refuses r.now (BatchRun.tryItems r.now before.length (.start r.freshId before false) e.store).2
        item fault →
      let present := submit r clock closingNanos e ticket (before ++ item :: after)
      let absent := submit r clock closingNanos e ticket (before ++ after)
      SameButClock present.1 absent.1 ∧ ∃ count, Announces (count + 1) present.2 ∧ Announces count absent.2 := by
  refine ⟨?_, ?_, ?_⟩
  · intro c h recorded
    obtain ⟨effects, hdispatch, hannounces⟩ := dispatch_rejected h
    obtain ⟨hhandle, hclean⟩ := handle_rejected h
    rw [hdispatch] at hhandle
    exact ⟨effects, hdispatch, hannounces, hhandle, hclean⟩
  · intro run item rest fault hnext h n
    exact BatchRun.tryItems_refused hnext h n
  · intro ticket before item after fault clock closingNanos h
    exact submit_refused r clock closingNanos e ticket before after h

/-- An engine that stores a node `a` and awaits the analysis of its content. -/
def awaiting : Engine :=
  let r : Reading := ⟨⟨⟨2024, 1, 1⟩, 43200, 0⟩, 0, "fresh"⟩
  ((Session.start {}).after
    [.handle r (.ask 0 (.upsertNode (.obj [("id", .str "a"), ("type", .str "file")]))),
     .handle r (.contentChanged "a" "text")]).engine

/-- An answer with metrics that are no numbers, and an item that removes a node which is not there. -/
theorem awaiting_rejects :
    let r : Reading := ⟨⟨⟨2024, 1, 2⟩, 0, 0⟩, 5, "other"⟩
    let answer := Command.answered (.analysis "a" 1) (.ok (.obj [("metrics", .obj [("lines", .str "many")])]))
    let item := Json.obj [("data", .obj [("id", .str "b")]), ("operation", .str "remove"), ("type", .str "node")]
    (∃ effects, awaiting.dispatch r answer =
      (({ awaiting with pendingAnalyses := awaiting.pendingAnalyses.erase "a" }, effects), none) ∧
        Announces 1 effects) ∧
    (∀ n, BatchRun.tryItems r.now (n + 1) (.start "other" [item] false) awaiting.store =
      BatchRun.tryItems r.now n ((BatchRun.start "other" [item] false).failNext (.unknownNode "b")) awaiting.store) ∧
    SameButClock (submit r (fun _ => r.now) 7 awaiting 0 [.null, item, .null]).1
      (submit r (fun _ => r.now) 7 awaiting 0 [.null, .null]).1 := by
  intro r answer item
  have hcurrent : awaiting.isCurrent "a" 1 = true := by decide +kernel
  have hrejects : awaiting.Rejects r.now answer := .malformed hcurrent (.metrics rfl rfl rfl)
  have hrefuses : BatchOperation.Refuses r.now awaiting.store item (.unknownNode "b") := rfl
  have hturn : BatchOperation.Refuses r.now (BatchRun.tryItems r.now 1 (.start "other" [.null] false) awaiting.store).2
      item (.unknownNode "b") := rfl
  obtain ⟨hcommand, hitem, hbatch⟩ := rejected_changes_nothing r awaiting
  obtain ⟨effects, hdispatch, hannounces, -⟩ := hcommand answer hrejects
  exact ⟨⟨effects, hdispatch, hannounces⟩, hitem _ item [] _ rfl hrefuses,
    (hbatch 0 [.null] item [.null] _ (fun _ => r.now) 7 hturn).1⟩

end Engine
end CodeGraph
