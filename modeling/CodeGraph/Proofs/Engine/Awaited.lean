import CodeGraph.Proofs.Engine.Pending
/-!
The wait for an analysis as the history of a session has it: a change is awaited exactly if it is
the latest of its path and since then neither was the node removed nor was a reply to it handled.
Only such a reply has any effect.
-/
namespace CodeGraph

namespace Engine

theorem landAnalysis_calm (now : Time) (e : Engine) (path : String) (n : Node) :
    Calm (e.landAnalysis now path n).2 := Calm.cons rfl (notifyAgents_calm _ _ _ _)

theorem analysisFinished_calm (now : Time) (e : Engine) (path : String) (seq : Nat)
    (result : Except TransportError Json) : Calm (e.analysisFinished now path seq result).2 := by
  simp only [analysisFinished, applyAnalysis]
  split
  · split
    · dsimp only
      exact emitError_calm _
    · split
      · dsimp only
        exact emitError_calm _
      · split
        · exact Calm.nil
        · exact landAnalysis_calm _ _ _ _
  · exact Calm.nil

theorem announceFailures_calm (report : BatchReport) : Calm (announceFailures report) := Calm.map _ fun _ => rfl

theorem removeNode_calm (r : Reading) (e : Engine) (ticket : Ticket) (id : String) :
    Calm (e.query r ticket (.removeNode id)).2 := by
  simp only [query]
  split
  · exact (refuse_quiet e r.now ticket _ _).calm
  · exact Calm.cons rfl Calm.nil

/-- An analysis is asked for only when a change is due that is still awaited. -/
theorem dispatch_asks (r : Reading) (e : Engine) (c : Command) {payload : Json} {purpose : Purpose}
    (h : .request .requestCodeAnalysis payload purpose ∈ (e.dispatch r c).1.2) :
    ∃ path seq content, c = .analysisDue path seq content ∧ purpose = .analysis path seq ∧
      e.isCurrent path seq = true := by
  have hcalm : ¬ Calm (e.dispatch r c).1.2 := fun hc => absurd (hc _ h) (by simp [Effect.asksAnalysis])
  rcases c.quiet_or_active with hq | hactive
  · exact absurd (dispatch_quiet r e hq).1.calm hcalm
  · cases hactive with
    | fileChanged payload hevent =>
      refine absurd ?_ hcalm
      simp only [dispatch, inbound, hevent, fileChanged]
      split
      · dsimp only
        exact emitError_calm _
      · exact Calm.cons rfl Calm.nil
    | contentChanged path content => exact absurd (Calm.cons rfl Calm.nil) hcalm
    | analysisDue path seq content =>
      simp only [dispatch, analysisDue] at h
      split at h
      · next hcur =>
        rw [List.mem_singleton] at h
        cases h
        exact ⟨path, seq, content, rfl, rfl, hcur⟩
      · cases h
    | analyzed path seq result => exact absurd (analysisFinished_calm r.now e path seq result) hcalm
    | removeNode ticket id => exact absurd (removeNode_calm r e ticket id) hcalm
    | nodeInfo ticket id => exact absurd (Calm.cons rfl Calm.nil) hcalm
    | batch ticket items =>
      refine absurd ?_ hcalm
      simp only [dispatch, batch]
      split
      · exact Calm.cons rfl Calm.nil
      · exact (announceFailures_calm _).append (Calm.cons rfl Calm.nil)

end Engine

theorem Step.changes?_eq_none {step : Step} {x : String × Nat} (h : step.replyTo? = some x) :
    step.changes? = none := by
  cases step with
  | handle r c =>
    cases c with
    | answered purpose result => rfl
    | _ => cases h
  | _ => rfl

namespace Session

/-- The nodes that a step removes. -/
def removed (s : Session) (step : Step) : List String := (s.removals step).map (·.2)

/-- What a step wants done. -/
def effects (s : Session) : Step → List Effect
  | .handle r c => (s.engine.handle r c).1.2
  | .chunk _ _ => []
  | .finish r place =>
    match s.batches[place]? with
    | none => []
    | some run => (s.engine.finishBatch r.elapsedNanos run).2

section Step
variable {s : Session} (step : Step)

theorem step_pending (h : s.Sound) (path : String) : (s.step step).engine.pendingAnalyses[path]? =
    s.engine.awaitedAfter path step.changes? (s.removed step) step.replyTo? := by
  cases step with
  | handle r c =>
    obtain ⟨profiler, heq⟩ := Engine.handle_eq r s.engine c
    simp only [Session.step, heq]
    exact Engine.dispatch_pending s.engine path r c
  | chunk r place =>
    simp only [Session.step, removed, removals, nextItems, Step.changes?, Step.replyTo?, Store.removalsOf_snd,
      Engine.awaitedAfter_removed]
    cases hrun : s.batches[place]? with
    | none => rfl
    | some run =>
      have hsound := h.runs run (List.mem_of_getElem? hrun)
      simp only [Engine.runChunk_eq r.now s.engine hsound.pending hsound.removed]
      exact congrArg (·[path]?) (Engine.foldl_forgetNode_pending _ _)
  | finish r place =>
    have hnothing := (Engine.awaitedAfter_nothing s.engine path).symm
    simp only [Session.step]
    cases s.batches[place]? with
    | none => exact hnothing
    | some run => exact hnothing

theorem step_seq (h : s.Sound) : (s.step step).engine.analysisSeq =
    s.engine.analysisSeq + if step.changes?.isSome then 1 else 0 := by
  cases step with
  | handle r c =>
    obtain ⟨profiler, heq⟩ := Engine.handle_eq r s.engine c
    simp only [Session.step, heq]
    exact Engine.dispatch_seq s.engine r c
  | chunk r place =>
    simp only [Session.step]
    cases hrun : s.batches[place]? with
    | none => rfl
    | some run =>
      have hsound := h.runs run (List.mem_of_getElem? hrun)
      simp only [Engine.runChunk_eq r.now s.engine hsound.pending hsound.removed]
      exact Engine.foldl_forgetNode_analysisSeq _ _
  | finish r place =>
    simp only [Session.step]
    cases s.batches[place]? <;> rfl

theorem effects_asks {payload : Json} {purpose : Purpose}
    (h : .request .requestCodeAnalysis payload purpose ∈ s.effects step) :
    ∃ r path seq content, step = .handle r (.analysisDue path seq content) ∧ purpose = .analysis path seq ∧
      s.engine.isCurrent path seq = true := by
  cases step with
  | handle r c =>
    obtain ⟨profiler, heq⟩ := Engine.handle_eq r s.engine c
    simp only [effects, heq] at h
    obtain ⟨path, seq, content, rfl, hp, hcur⟩ := Engine.dispatch_asks r s.engine c h
    exact ⟨r, path, seq, content, rfl, hp, hcur⟩
  | chunk r place => cases h
  | finish r place =>
    simp only [effects] at h
    cases hrun : s.batches[place]? with
    | none => simp [hrun] at h
    | some run =>
      have hcalm : Calm (s.engine.finishBatch r.elapsedNanos run).2 :=
        (Engine.announceFailures_calm _).append (Calm.cons rfl Calm.nil)
      rw [hrun] at h
      exact absurd (hcalm _ h) (by simp [Effect.asksAnalysis])

end Step

/-- How many content changes there are; the latest has this number. -/
def changeCount (steps : List Step) : Nat := (steps.filter (·.changes?.isSome)).length

theorem changeCount_concat (steps : List Step) (step : Step) :
    changeCount (steps ++ [step]) = changeCount steps + if step.changes?.isSome then 1 else 0 := by
  simp only [changeCount, List.filter_append, List.length_append]
  cases h : step.changes?.isSome <;> simp [h]

/-- A step that leaves the wait for a change as it is. -/
structure Leaves (s : Session) (step : Step) (path : String) (seq : Nat) : Prop where
  changes : step.changes? ≠ some path
  removed : path ∉ s.removed step
  reply : step.replyTo? ≠ some (path, seq)

/-- The change of that number is the latest of the path, and since it was made the node was not
removed and no reply to it was handled. -/
def Awaits (s : Session) (steps : List Step) (path : String) (seq : Nat) : Prop :=
  ∃ before change since, steps = before ++ change :: since ∧ change.changes? = some path ∧
    changeCount before + 1 = seq ∧
    ∀ mid later rest, since = mid ++ later :: rest → (s.after (before ++ change :: mid)).Leaves later path seq

/-- Every reply is to a request that an earlier step sent. -/
def RepliesAnswerRequests (s : Session) (steps : List Step) : Prop :=
  ∀ before reply since path seq, steps = before ++ reply :: since → reply.replyTo? = some (path, seq) →
    ∃ earlier request rest payload, before = earlier ++ request :: rest ∧
      .request .requestCodeAnalysis payload (.analysis path seq) ∈ (s.after earlier).effects request

/-- No reply is to a change that is yet to be made. -/
def RepliesFollowChanges (steps : List Step) : Prop :=
  ∀ before reply since path seq, steps = before ++ reply :: since → reply.replyTo? = some (path, seq) →
    seq ≤ changeCount before

variable {s : Session} {steps : List Step} {path : String} {seq : Nat}

theorem awaits_concat (step : Step) : s.Awaits (steps ++ [step]) path seq ↔
    (step.changes? = some path ∧ changeCount steps + 1 = seq) ∨
      (s.Awaits steps path seq ∧ (s.after steps).Leaves step path seq) := by
  constructor
  · rintro ⟨before, change, since, hsteps, hchange, hseq, hleaves⟩
    rcases List.eq_nil_or_concat since with rfl | ⟨since', last, rfl⟩
    · obtain ⟨rfl, hlast⟩ := List.append_inj' hsteps rfl
      cases hlast
      exact Or.inl ⟨hchange, hseq⟩
    · rw [List.concat_eq_append, ← List.cons_append, ← List.append_assoc] at hsteps
      obtain ⟨rfl, hlast⟩ := List.append_inj' hsteps rfl
      cases hlast
      refine Or.inr ⟨⟨before, change, since', rfl, hchange, hseq, ?_⟩, hleaves since' step [] (by simp)⟩
      intro mid later rest hsince
      exact hleaves mid later (rest ++ [step]) (by simp [hsince])
  · rintro (⟨hchange, hseq⟩ | ⟨⟨before, change, since, rfl, hchange, hseq, hleaves⟩, hlast⟩)
    · exact ⟨steps, step, [], rfl, hchange, hseq, by simp⟩
    · refine ⟨before, change, since ++ [step], by simp, hchange, hseq, ?_⟩
      intro mid later rest hsince
      rcases List.eq_nil_or_concat rest with rfl | ⟨rest', last, rfl⟩
      · obtain ⟨rfl, hlater⟩ := List.append_inj' hsince rfl
        cases hlater
        exact hlast
      · rw [List.concat_eq_append, ← List.cons_append, ← List.append_assoc] at hsince
        obtain ⟨rfl, -⟩ := List.append_inj' hsince rfl
        exact hleaves mid later rest' rfl

theorem analysisSeq_eq (config : Config) (steps : List Step) :
    ((start config).after steps).engine.analysisSeq = changeCount steps := by
  induction steps using List.reverseRecOn with
  | nil => rfl
  | append_singleton steps step ih =>
    rw [after_concat, step_seq step (after_sound (start_sound config) steps), ih, changeCount_concat]

/-- What the engine takes for current is what the history says is awaited. -/
theorem isCurrent_iff_awaits (config : Config) (steps : List Step) (path : String) (seq : Nat) :
    ((start config).after steps).engine.isCurrent path seq = true ↔ (start config).Awaits steps path seq := by
  rw [Engine.isCurrent_iff]
  induction steps using List.reverseRecOn with
  | nil =>
    constructor
    · intro h
      simp [start, Engine.empty] at h
    · rintro ⟨before, change, since, hnil, -⟩
      simp at hnil
  | append_singleton steps step ih =>
    rw [after_concat, step_pending step (after_sound (start_sound config) steps), awaits_concat, ← ih,
      Engine.awaitedAfter, analysisSeq_eq]
    constructor
    · intro h
      split at h
      · next hchange => exact Or.inl ⟨hchange, Option.some.inj h⟩
      · next hchange =>
        split at h
        · cases h
        · next hremoved =>
          obtain ⟨hpending, hreply⟩ := Option.filter_eq_some_iff.mp h
          exact Or.inr ⟨hpending, hchange, hremoved, by simpa using hreply⟩
    · rintro (⟨hchange, hseq⟩ | ⟨hpending, hleaves⟩)
      · rw [if_pos hchange, hseq]
      · rw [if_neg hleaves.changes, if_neg hleaves.removed]
        exact Option.filter_eq_some_iff.mpr ⟨hpending, by simpa using hleaves.reply⟩

theorem changeCount_le_append (xs ys : List Step) : changeCount xs ≤ changeCount (xs ++ ys) := by
  simp only [changeCount, List.filter_append, List.length_append]
  omega

theorem Awaits.le_changeCount (h : s.Awaits steps path seq) : seq ≤ changeCount steps := by
  obtain ⟨before, change, since, rfl, hchange, rfl, -⟩ := h
  have hle := changeCount_le_append (before ++ [change]) since
  rw [changeCount_concat, hchange, Option.isSome_some, if_pos rfl, List.append_assoc] at hle
  exact hle

/-- Requests are sent for changes that were made, and so are the replies to them. -/
theorem RepliesAnswerRequests.follow_changes {config : Config}
    (h : (start config).RepliesAnswerRequests steps) : RepliesFollowChanges steps := by
  intro before reply since path seq hsteps hreply
  obtain ⟨earlier, request, rest, payload, rfl, hsent⟩ := h before reply since path seq hsteps hreply
  obtain ⟨r, path', seq', content, -, hpurpose, hcur⟩ := effects_asks request hsent
  cases hpurpose
  have hle := ((isCurrent_iff_awaits config earlier path seq).mp hcur).le_changeCount
  exact Nat.le_trans hle (changeCount_le_append earlier (request :: rest))

/-- A reply ends the wait for good: what is awaited for the path from then on is a later change. -/
theorem Awaits.lt_of_reply {config : Config} {before since : List Step} {reply : Step} {seq' : Nat}
    (hbefore : (start config).Awaits before path seq') (hreply : reply.replyTo? = some (path, seq'))
    (h : (start config).Awaits (before ++ reply :: since) path seq) : changeCount before < seq := by
  induction since using List.reverseRecOn with
  | nil =>
    rcases (awaits_concat reply).mp h with ⟨hchange, -⟩ | ⟨hcurrent, hleaves⟩
    · rw [Step.changes?_eq_none hreply] at hchange
      cases hchange
    · have hseq : seq' = seq := by
        have h₁ := (Engine.isCurrent_iff _ _ _).mp ((isCurrent_iff_awaits config before path seq').mpr hbefore)
        have h₂ := (Engine.isCurrent_iff _ _ _).mp ((isCurrent_iff_awaits config before path seq).mpr hcurrent)
        exact Option.some.inj (h₁.symm.trans h₂)
      exact absurd (hseq ▸ hreply) hleaves.reply
  | append_singleton since step ih =>
    rw [← List.cons_append, ← List.append_assoc, awaits_concat] at h
    rcases h with ⟨-, hseq⟩ | ⟨hcurrent, -⟩
    · have := changeCount_le_append before (reply :: since)
      omega
    · exact ih hcurrent

/-- No reply to an awaited change was handled before. -/
theorem Awaits.not_replied (h : s.Awaits steps path seq) (hfollow : RepliesFollowChanges steps) :
    ∀ earlier ∈ steps, earlier.replyTo? ≠ some (path, seq) := by
  induction steps using List.reverseRecOn with
  | nil => simp
  | append_singleton steps step ih =>
    have hfollow' : RepliesFollowChanges steps := by
      intro before reply since p q hsteps
      exact hfollow before reply (since ++ [step]) p q (by simp [hsteps])
    intro earlier hearlier hreply
    rcases (awaits_concat step).mp h with ⟨hchange, hseq⟩ | ⟨hcurrent, hleaves⟩
    · rcases List.mem_append.mp hearlier with hmem | hmem
      · obtain ⟨before, since, rfl⟩ := List.append_of_mem hmem
        have hle := hfollow' before earlier since path seq rfl hreply
        have := changeCount_le_append before (earlier :: since)
        omega
      · rw [List.mem_singleton] at hmem
        rw [hmem] at hreply
        rw [Step.changes?_eq_none hreply] at hchange
        cases hchange
    · rcases List.mem_append.mp hearlier with hmem | hmem
      · exact ih hcurrent hfollow' earlier hmem hreply
      · rw [List.mem_singleton] at hmem
        exact hleaves.reply (hmem ▸ hreply)

end Session

/-- The graph, its history or the cached analyses differ afterwards, or an analysis or a
notification is sent. -/
def Engine.HasTrace (e : Engine) (o : Outcome) : Prop :=
  o.1.store.nodes ≠ e.store.nodes ∨ o.1.store.edges ≠ e.store.edges ∨ o.1.store.history ≠ e.store.history ∨
    o.1.analysisCache ≠ e.analysisCache ∨
    ∃ payload, .emit .analyzeCode payload ∈ o.2 ∨ .emit .agentNotification payload ∈ o.2

theorem Engine.isCurrent_of_hasTrace {e : Engine} {r : Reading} {path : String} {seq : Nat}
    {result : Except TransportError Json}
    (h : e.HasTrace (e.handle r (.answered (.analysis path seq) result)).1) : e.isCurrent path seq = true := by
  cases hcur : e.isCurrent path seq with
  | true => rfl
  | false =>
    obtain ⟨profiler, heq⟩ := handle_eq r e (.answered (.analysis path seq) result)
    simp [heq, dispatch, analysisFinished, hcur, HasTrace, dropDirty, Store.takeDirty] at h

namespace Session

/-- A step is a reply to the change of that number, and it has an effect. -/
def Lands (s : Session) (step : Step) (path : String) (seq : Nat) : Prop :=
  ∃ r result, step = .handle r (.answered (.analysis path seq) result) ∧
    s.engine.HasTrace (s.engine.handle r (.answered (.analysis path seq) result)).1

theorem Lands.awaits {config : Config} {steps : List Step} {step : Step} {path : String} {seq : Nat}
    (h : ((start config).after steps).Lands step path seq) : (start config).Awaits steps path seq := by
  obtain ⟨r, result, -, htrace⟩ := h
  exact (isCurrent_iff_awaits config steps path seq).mp (Engine.isCurrent_of_hasTrace htrace)

/-- A reply has an effect only if its change is still awaited and was never answered before, and
then it is to a later change of the path than every reply that had an effect. An analysis is asked
for only of a change that is still awaited when it is due, and replies to what was asked are to
changes that were made. -/
theorem replies_land_only_if_awaited (config : Config) (steps : List Step) (step : Step) :
    (∀ path seq, ((start config).after steps).Lands step path seq →
      (start config).Awaits steps path seq ∧
      (RepliesFollowChanges steps → ∀ earlier ∈ steps, earlier.replyTo? ≠ some (path, seq)) ∧
      ∀ before earlier since seq', steps = before ++ earlier :: since →
        ((start config).after before).Lands earlier path seq' → seq' < seq) ∧
    (∀ payload purpose,
      .request .requestCodeAnalysis payload purpose ∈ ((start config).after steps).effects step →
        ∃ r path seq content, step = .handle r (.analysisDue path seq content) ∧
          purpose = .analysis path seq ∧ (start config).Awaits steps path seq) ∧
    ((start config).RepliesAnswerRequests steps → RepliesFollowChanges steps) := by
  refine ⟨?_, ?_, RepliesAnswerRequests.follow_changes⟩
  · intro path seq hlands
    have hawaits := hlands.awaits
    refine ⟨hawaits, hawaits.not_replied, ?_⟩
    intro before earlier since seq' hsteps hearlier
    have hreply : earlier.replyTo? = some (path, seq') := by
      obtain ⟨r, result, rfl, -⟩ := hearlier
      rfl
    have hle := hearlier.awaits.le_changeCount
    have hlt := hearlier.awaits.lt_of_reply hreply (hsteps ▸ hawaits)
    omega
  · intro payload purpose hasks
    obtain ⟨r, path, seq, content, rfl, rfl, hcur⟩ := effects_asks step hasks
    exact ⟨r, path, seq, content, rfl, rfl, (isCurrent_iff_awaits config steps path seq).mp hcur⟩

end Session
end CodeGraph
