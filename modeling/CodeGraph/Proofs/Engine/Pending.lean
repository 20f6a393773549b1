import Mathlib.Data.List.Induction
import CodeGraph.Proofs.Engine.Session
/-!
Which analysis is awaited. At most one change of each path is, and it is the latest: a later change,
a removal of the node and a reply each end the wait, in whatever order they come.
-/
namespace CodeGraph

/-- The path whose content a command changes. -/
def Command.changes? : Command → Option String
  | .contentChanged path _ => some path
  | .inbound event payload =>
    if InboundEvent.ofName? event = some .fileChanged then (ContentChange.parse payload).toOption.map (·.path)
    else none
  | _ => none

/-- The change to whose analysis a command is the reply. -/
def Command.replyTo? : Command → Option (String × Nat)
  | .answered (.analysis path seq) _ => some (path, seq)
  | _ => none

namespace Step

def changes? : Step → Option String
  | handle _ c => c.changes?
  | _ => none

def replyTo? : Step → Option (String × Nat)
  | handle _ c => c.replyTo?
  | _ => none

end Step

namespace Engine
variable (e : Engine) (path : String)

/-- What is awaited for a path after a command that changes, removes and answers these. -/
def awaitedAfter (changed : Option String) (removed : List String) (reply : Option (String × Nat)) : Option Nat :=
  if changed = some path then some (e.analysisSeq + 1)
  else if path ∈ removed then none
  else e.pendingAnalyses[path]?.filter fun seq => reply != some (path, seq)

theorem filter_no_reply (o : Option Nat) :
    (o.filter fun seq => (none : Option (String × Nat)) != some (path, seq)) = o := by
  cases o <;> rfl

theorem filter_reply (o : Option Nat) (answered : String) (seq : Nat) :
    (o.filter fun q => some (answered, seq) != some (path, q)) =
      if answered = path ∧ o = some seq then none else o := by
  cases o with
  | none => simp
  | some q =>
    by_cases h : answered = path ∧ q = seq
    · obtain ⟨rfl, rfl⟩ := h
      simp
    · have hne : (some (answered, seq) != some (path, q)) = true := by
        simp only [bne_iff_ne, ne_eq, Option.some.injEq, Prod.mk.injEq]
        exact fun he => h ⟨he.1, he.2.symm⟩
      rw [Option.filter_some, if_pos hne, if_neg]
      simpa using h

theorem awaitedAfter_removed (removed : List String) :
    e.awaitedAfter path none removed none = (removed.foldl (·.erase ·) e.pendingAnalyses)[path]? := by
  rw [Cache.getElem?_foldl_erase]
  simp only [awaitedAfter, reduceCtorEq, if_false, filter_no_reply]

theorem awaitedAfter_nothing : e.awaitedAfter path none [] none = e.pendingAnalyses[path]? :=
  awaitedAfter_removed e path []

theorem isCurrent_iff (seq : Nat) : e.isCurrent path seq = true ↔ e.pendingAnalyses[path]? = some seq := by
  simp [isCurrent]

theorem contentChanged_pending (changed content : String) :
    (e.contentChanged changed content).1.pendingAnalyses[path]? = e.awaitedAfter path (some changed) [] none := by
  simp only [contentChanged, Std.ExtTreeMap.getElem?_insert, Std.compare_eq_iff_eq, awaitedAfter,
    Option.some.injEq, List.not_mem_nil, if_false, filter_no_reply]

theorem analysisFinished_pending (now : Time) (answered : String) (seq : Nat)
    (result : Except TransportError Json) :
    (e.analysisFinished now answered seq result).1.pendingAnalyses[path]? =
      e.awaitedAfter path none [] (some (answered, seq)) := by
  have hafter : e.awaitedAfter path none [] (some (answered, seq)) =
      e.pendingAnalyses[path]?.filter fun q => some (answered, seq) != some (path, q) := by
    simp only [awaitedAfter, reduceCtorEq, if_false, List.not_mem_nil]
  rw [hafter, filter_reply]
  by_cases hcur : e.isCurrent answered seq = true
  · have herased : (e.analysisFinished now answered seq result).1.pendingAnalyses =
        e.pendingAnalyses.erase answered := by
      simp only [analysisFinished, if_pos hcur]
      split
      · rfl
      · exact (applyAnalysis_cases now _ answered _).2.2.1
    rw [isCurrent_iff] at hcur
    simp only [herased, Std.ExtTreeMap.getElem?_erase, Std.compare_eq_iff_eq]
    by_cases hpath : answered = path
    · subst hpath
      simp only [if_true, hcur, and_self]
    · simp only [hpath, false_and, if_false]
  · have hno : ¬ (answered = path ∧ e.pendingAnalyses[path]? = some seq) := by
      rintro ⟨rfl, h⟩
      exact hcur ((isCurrent_iff e answered seq).mpr h)
    rw [analysisFinished, if_neg hcur, if_neg hno]

theorem quiet_changes {c : Command} (h : c.isQuiet = true) : c.changes? = none ∧ c.replyTo? = none := by
  cases c with
  | inbound event payload =>
    simp only [Command.isQuiet, bne_iff_ne, ne_eq] at h
    exact ⟨if_neg h, rfl⟩
  | answered purpose result =>
    cases purpose with
    | analysis path seq => cases h
    | _ => exact ⟨rfl, rfl⟩
  | contentChanged path content => cases h
  | _ => exact ⟨rfl, rfl⟩

theorem fileChanged_pending (payload : Json) : (e.fileChanged payload).1.pendingAnalyses[path]? =
    e.awaitedAfter path ((ContentChange.parse payload).toOption.map (·.path)) [] none := by
  simp only [fileChanged]
  cases ContentChange.parse payload with
  | error fault => exact (awaitedAfter_nothing e path).symm
  | ok change => exact contentChanged_pending e path change.path change.content

theorem removeNode_pending (r : Reading) (ticket : Ticket) (id : String) :
    (e.query r ticket (.removeNode id)).1.pendingAnalyses[path]? =
      e.awaitedAfter path none ((e.store.removal id).map (·.2)) none := by
  rw [awaitedAfter_removed]
  simp only [query, removeNode, Store.removal, Store.contains_eq]
  rcases e.store.removeNode_cases r.now id with ⟨hid, hr⟩ | ⟨n, s', hid, hr, -⟩
  · rw [hr, hid]
    rfl
  · rw [hr, hid]
    rfl

theorem batch_pending (r : Reading) (ticket : Ticket) (items : List Json) :
    (e.batch r ticket items).1.1.pendingAnalyses[path]? =
      e.awaitedAfter path none ((e.removals r.now (.batch ticket items)).map (·.2)) none := by
  rw [awaitedAfter_removed, removals]
  by_cases h : items.length > e.config.batchDeferThreshold
  · simp only [batch, if_pos h]
    rfl
  · simp only [batch_at_once r e ticket h, if_neg h, Store.removalsOf_snd, foldl_forgetNode_pending]

/-- What a command does to what is awaited for a path. -/
theorem dispatch_pending (r : Reading) (c : Command) : (e.dispatch r c).1.1.pendingAnalyses[path]? =
    e.awaitedAfter path c.changes? ((e.removals r.now c).map (·.2)) c.replyTo? := by
  rcases c.quiet_or_active with hq | hactive
  · obtain ⟨hc, hr⟩ := quiet_changes hq
    rw [(dispatch_quiet r e hq).1.pending, hc, hr, removals_quiet r.now e hq]
    exact (awaitedAfter_nothing e path).symm
  · cases hactive with
    | fileChanged payload hevent =>
      simp only [dispatch, inbound, hevent, Command.changes?, if_true]
      exact fileChanged_pending e path payload
    | contentChanged changed content => exact contentChanged_pending e path changed content
    | analysisDue due seq content =>
      simp only [dispatch, analysisDue_fst]
      exact (awaitedAfter_nothing e path).symm
    | analyzed answered seq result => exact analysisFinished_pending e path r.now answered seq result
    | removeNode ticket id => exact removeNode_pending e path r ticket id
    | nodeInfo ticket id =>
      have hsame : (e.nodeInfo r.now id).2.pendingAnalyses = e.pendingAnalyses := by
        simp only [nodeInfo]
        split <;> rfl
      simp only [dispatch, query, hsame]
      exact (awaitedAfter_nothing e path).symm
    | batch ticket items => exact batch_pending e path r ticket items

theorem dispatch_seq (r : Reading) (c : Command) :
    (e.dispatch r c).1.1.analysisSeq = e.analysisSeq + if c.changes?.isSome then 1 else 0 := by
  rcases c.quiet_or_active with hq | hactive
  · rw [(dispatch_quiet r e hq).1.seq, (quiet_changes hq).1, Option.isSome_none, if_neg nofun, Nat.add_zero]
  · cases hactive with
    | fileChanged payload hevent =>
      simp only [dispatch, inbound, hevent, Command.changes?, if_true, fileChanged]
      cases ContentChange.parse payload <;> rfl
    | contentChanged changed content => rfl
    | analysisDue due seq content =>
      simp only [dispatch, analysisDue_fst]
      rfl
    | analyzed answered seq result =>
      simp only [dispatch, analysisFinished]
      split
      · split
        · rfl
        · exact (applyAnalysis_cases r.now _ answered _).2.2.2
      · rfl
    | removeNode ticket id =>
      simp only [dispatch, query, removeNode]
      rcases e.store.removeNode_cases r.now id with ⟨-, hr⟩ | ⟨n, s', -, hr, -⟩
      · rw [hr]
        rfl
      · rw [hr]
        rfl
    | nodeInfo ticket id =>
      simp only [dispatch, query, nodeInfo]
      split <;> rfl
    | batch ticket items =>
      by_cases h : items.length > e.config.batchDeferThreshold
      · simp only [dispatch, batch, if_pos h]
        rfl
      · simp only [dispatch, batch_at_once r e ticket h, foldl_forgetNode_analysisSeq]
        rfl

end Engine
end CodeGraph
