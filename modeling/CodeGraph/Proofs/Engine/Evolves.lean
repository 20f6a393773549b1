import CodeGraph.Proofs.Engine.Quiet
import CodeGraph.Proofs.Batch.Trial
/-!
What a command does to the stored graph and to what is cached of it: some actions are performed, and
a value is cached anew only for a node that is looked up.
-/
namespace CodeGraph

/-- The removals among some items that are tried one after the other. -/
def Store.removalsOf (now : Time) (items : List Json) (s : Store) : List (Store × String) :=
  Store.removals now (Verdict.accepted (Verdict.all now items s)) s

theorem Store.removalsOf_snd (now : Time) (items : List Json) (s : Store) :
    (s.removalsOf now items).map (·.2) = Verdict.removed (Verdict.all now items s) :=
  Verdict.removals_all now items s

namespace Engine

section Forget
variable (e : Engine) (ids : List String)

theorem foldl_forgetNode : ids.foldl forgetNode e = { e with
    pendingAnalyses := ids.foldl (·.erase ·) e.pendingAnalyses
    analysisCache := { e.analysisCache with entries := ids.foldl (·.erase ·) e.analysisCache.entries }
    searchResults := ids.foldl (·.erase ·) e.searchResults } := by
  induction ids generalizing e with
  | nil => rfl
  | cons id ids ih =>
    rw [List.foldl_cons, ih]
    rfl

theorem foldl_forgetNode_store : (ids.foldl forgetNode e).store = e.store := by
  rw [foldl_forgetNode]

theorem foldl_forgetNode_derivedCache : (ids.foldl forgetNode e).derivedCache = e.derivedCache := by
  rw [foldl_forgetNode]

theorem foldl_forgetNode_analysisSeq : (ids.foldl forgetNode e).analysisSeq = e.analysisSeq := by
  rw [foldl_forgetNode]

theorem foldl_forgetNode_pending :
    (ids.foldl forgetNode e).pendingAnalyses = ids.foldl (·.erase ·) e.pendingAnalyses := by
  rw [foldl_forgetNode]

end Forget

/-- What becomes of the graph and of what is cached of it when the nodes of some removals are
removed. -/
structure Evolves (now : Time) (e e' : Engine) (removals : List (Store × String)) : Prop where
  store : ∃ as, e'.store = e.store.perform now as ∧ Store.removals now as e.store = removals
  cached : ∀ id entry', e'.derivedCache.entries[id]? = some entry' →
    (∃ entry, e.derivedCache.entries[id]? = some entry ∧ entry.value = entry'.value) ∨
      ∃ n t, e'.store = e.store ∧ e.store.node? id = some n ∧ entry'.value = e.store.derive t n

namespace Evolves
variable {now : Time} {e e' : Engine}

theorem unchanged (hs : e'.store = e.store) (hd : e'.derivedCache = e.derivedCache) : Evolves now e e' [] where
  store := ⟨[], hs, rfl⟩
  cached id entry' h := by
    rw [hd] at h
    exact Or.inl ⟨entry', h, rfl⟩

theorem revised (hs : Store.Revised now e.store e'.store) (hd : e.derivedCache.Inherits e'.derivedCache) :
    Evolves now e e' [] where
  store := by
    obtain ⟨as, hs, has⟩ := hs
    exact ⟨as, hs, Store.removals_eq_nil now e.store has⟩
  cached id entry' h := Or.inl (hd id entry' h)

theorem tried {items : List Json}
    (hs : e'.store = e.store.perform now (Verdict.accepted (Verdict.all now items e.store)))
    (hd : e'.derivedCache = e.derivedCache) : Evolves now e e' (e.store.removalsOf now items) where
  store := ⟨_, hs, rfl⟩
  cached id entry' h := by
    rw [hd] at h
    exact Or.inl ⟨entry', h, rfl⟩

end Evolves

/-- The removals that a command causes at once. -/
def removals (now : Time) (e : Engine) : Command → List (Store × String)
  | .ask _ (.removeNode id) => e.store.removal id
  | .batch _ items =>
    if items.length > e.config.batchDeferThreshold then [] else e.store.removalsOf now items
  | _ => []

theorem contentChanged_evolves (now : Time) (e : Engine) (path content : String) :
    Evolves now e (e.contentChanged path content).1 [] := Evolves.unchanged rfl rfl

theorem fileChanged_evolves (now : Time) (e : Engine) (payload : Json) :
    Evolves now e (e.fileChanged payload).1 [] := by
  simp only [fileChanged]
  split
  · exact Evolves.unchanged rfl rfl
  · exact contentChanged_evolves now e _ _

theorem analysisDue_fst (e : Engine) (path : String) (seq : Nat) (content : String) :
    (e.analysisDue path seq content).1 = e := by
  simp only [analysisDue]
  split <;> rfl

theorem applyAnalysis_cases (now : Time) (e : Engine) (path : String) (response : Json) :
    Store.Revised now e.store (e.applyAnalysis now path response).1.store ∧
      (e.applyAnalysis now path response).1.derivedCache = e.derivedCache ∧
      (e.applyAnalysis now path response).1.pendingAnalyses = e.pendingAnalyses ∧
      (e.applyAnalysis now path response).1.analysisSeq = e.analysisSeq := by
  simp only [applyAnalysis]
  split
  · exact ⟨Store.Revised.refl _, rfl, rfl, rfl⟩
  · next found _ =>
    have hs := found.apply_revised now path response e.store
    split
    · exact ⟨hs, rfl, rfl, rfl⟩
    · exact ⟨hs, rfl, rfl, rfl⟩

theorem analysisFinished_evolves (now : Time) (e : Engine) (path : String) (seq : Nat)
    (result : Except TransportError Json) : Evolves now e (e.analysisFinished now path seq result).1 [] := by
  simp only [analysisFinished]
  split
  · split
    · exact Evolves.unchanged rfl rfl
    · next response =>
      obtain ⟨hs, hd, -⟩ :=
        applyAnalysis_cases now { e with pendingAnalyses := e.pendingAnalyses.erase path } path response
      refine Evolves.revised hs ?_
      rw [hd]
      exact Cache.Inherits.refl _
  · exact Evolves.unchanged rfl rfl

theorem nodeInfo_evolves (now : Time) (e : Engine) (id : String) : Evolves now e (e.nodeInfo now id).2 [] := by
  simp only [nodeInfo]
  split
  · exact Evolves.unchanged rfl rfl
  · next n hn =>
    obtain ⟨hold, -⟩ := Cache.get?_inherits e.derivedCache id now.instant
    refine ⟨⟨[], rfl, rfl⟩, ?_⟩
    intro k entry' hk
    cases hcached : (e.derivedCache.get? id now.instant).1 with
    | some derived =>
      simp only [hcached] at hk
      exact Or.inl (hold k entry' hk)
    | none =>
      simp only [hcached] at hk
      rcases Cache.set_entry hk with ⟨rfl, hvalue⟩ | ⟨-, hentry⟩
      · exact Or.inr ⟨n, now, rfl, hn, hvalue⟩
      · exact Or.inl (hold k entry' hentry)

theorem removeNode_evolves (r : Reading) (e : Engine) (ticket : Ticket) (id : String) :
    Evolves r.now e (e.query r ticket (.removeNode id)).1 (e.store.removal id) := by
  simp only [query, removeNode]
  rcases e.store.removeNode_cases r.now id with ⟨hid, hr⟩ | ⟨n, s', hid, hr, -⟩
  · have hnone : e.store.removal id = [] := by simp [Store.removal, Store.contains_eq, hid]
    rw [hr, hnone]
    exact Evolves.unchanged rfl rfl
  · rw [hr]
    refine ⟨⟨[.remove id], (Store.remove_apply hr).symm, ?_⟩, fun k entry' hk => Or.inl ⟨entry', hk, rfl⟩⟩
    simp [Store.removals, Store.removalBy, StoreAction.removed?]

/-- A batch that is applied at once: all of its items are tried, and what they remove is
forgotten. -/
theorem batch_at_once (r : Reading) (e : Engine) (ticket : Ticket) {items : List Json}
    (h : ¬ items.length > e.config.batchDeferThreshold) :
    e.batch r ticket items =
      let verdicts := Verdict.all r.now items e.store
      let report := ((BatchRun.start r.freshId items false).advance verdicts).report
        (OperationStats.millis r.elapsedNanos)
      (((Verdict.removed verdicts).foldl forgetNode
          { e with store := e.store.perform r.now (Verdict.accepted verdicts) },
        announceFailures report ++ [.answer ticket (.batchApplied report)]), none) := by
  have htake : items.take (max items.length 1) = items := List.take_of_length_le (by omega)
  simp only [batch, if_neg h, BatchRun.runChunk]
  rw [BatchRun.tryItems_eq r.now _ _ _ (Nat.le_refl _)]
  simp only [BatchRun.start, htake, forgetRemoved, BatchRun.takeRemoved, BatchRun.advance, List.nil_append,
    BatchRun.report]

theorem batch_evolves (r : Reading) (e : Engine) (ticket : Ticket) (items : List Json) :
    Evolves r.now e (e.batch r ticket items).1.1 (e.removals r.now (.batch ticket items)) := by
  by_cases h : items.length > e.config.batchDeferThreshold
  · simp only [batch, removals, if_pos h]
    exact Evolves.unchanged rfl rfl
  · simp only [batch_at_once r e ticket h, removals, if_neg h]
    exact Evolves.tried (foldl_forgetNode_store _ _) (foldl_forgetNode_derivedCache _ _)

/-- What a command that is quiet removes. -/
theorem removals_quiet (now : Time) (e : Engine) {c : Command} (h : c.isQuiet = true) : e.removals now c = [] := by
  cases c with
  | ask ticket q =>
    cases q with
    | removeNode id => cases h
    | _ => rfl
  | batch ticket items => cases h
  | _ => rfl

theorem dispatch_evolves (r : Reading) (e : Engine) (c : Command) :
    Evolves r.now e (e.dispatch r c).1.1 (e.removals r.now c) := by
  rcases c.quiet_or_active with hq | hactive
  · have h := (dispatch_quiet r e hq).1
    rw [removals_quiet r.now e hq]
    exact Evolves.revised h.store h.derived
  · cases hactive with
    | fileChanged payload hevent =>
      simp only [dispatch, inbound, hevent, removals]
      exact fileChanged_evolves r.now e payload
    | contentChanged path content => exact contentChanged_evolves r.now e path content
    | analysisDue path seq content =>
      simp only [dispatch, analysisDue_fst, removals]
      exact Evolves.unchanged rfl rfl
    | analyzed path seq result => exact analysisFinished_evolves r.now e path seq result
    | removeNode ticket id => exact removeNode_evolves r e ticket id
    | nodeInfo ticket id => exact nodeInfo_evolves r.now e id
    | batch ticket items => exact batch_evolves r e ticket items

end Engine
end CodeGraph
