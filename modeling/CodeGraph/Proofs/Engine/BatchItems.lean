import CodeGraph.Proofs.Engine.Advance
/-!
A batch against its items. Whether it is applied at once or deferred and worked off chunk by chunk,
a batch comes to trying its items one at a time in order, where an item that fails changes nothing.
-/
namespace CodeGraph

namespace Verdict

theorem mem_refusals {start i : Nat} {message : String} {vs : List Verdict} :
    ⟨i, message⟩ ∈ refusals start vs ↔
      ∃ j fault, i = start + j ∧ vs[j]? = some (.error fault) ∧ fault.message = message := by
  induction vs generalizing start with
  | nil => simp [refusals]
  | cons v vs ih =>
    have hrest : ⟨i, message⟩ ∈ refusals (start + 1) vs ↔
        ∃ j fault, i = start + (j + 1) ∧ (v :: vs)[j + 1]? = some (.error fault) ∧ fault.message = message := by
      simp only [ih, Nat.add_right_comm, Nat.add_assoc, List.getElem?_cons_succ]
    cases v with
    | ok a =>
      rw [refusals, hrest]
      constructor
      · rintro ⟨j, fault, h⟩
        exact ⟨j + 1, fault, h⟩
      · rintro ⟨j, fault, hi, hj, hm⟩
        cases j with
        | zero => cases hj
        | succ j => exact ⟨j, fault, hi, hj, hm⟩
    | error fault =>
      rw [refusals, List.mem_cons, hrest]
      constructor
      · rintro (h | ⟨j, fault, h⟩)
        · cases h
          exact ⟨0, fault, rfl, rfl, rfl⟩
        · exact ⟨j + 1, fault, h⟩
      · rintro ⟨j, fault', hi, hj, hm⟩
        cases j with
        | zero =>
          cases hj
          exact Or.inl (by rw [hi, ← hm, Nat.add_zero])
        | succ j => exact Or.inr ⟨j, fault', hi, hj, hm⟩

theorem refusals_increasing (start : Nat) (vs : List Verdict) :
    (refusals start vs).Pairwise fun f g => f.index < g.index := by
  induction vs generalizing start with
  | nil => exact List.Pairwise.nil
  | cons v vs ih =>
    cases v with
    | ok a => exact ih (start + 1)
    | error fault =>
      refine List.Pairwise.cons ?_ (ih (start + 1))
      intro f hf
      obtain ⟨j, -, hj, -⟩ := mem_refusals.mp hf
      exact (show start < f.index by omega)

/-- The verdict on an item is passed on what the items before it left. -/
theorem all_getElem? (now : Time) (items : List Json) (s : Store) (i : Nat) :
    (all now items s)[i]? =
      items[i]?.map (judge (s.perform now (accepted (all now (items.take i) s)))) := by
  induction items generalizing s i with
  | nil => simp [all]
  | cons item rest ih =>
    cases i with
    | zero => simp [all]
    | succ i =>
      simp only [all, List.getElem?_cons_succ, List.take_succ_cons, ih]
      cases judge s item with
      | ok a => rfl
      | error e => rfl

end Verdict

namespace Engine
open Verdict

/-- Tries a single item: what it removes is forgotten, and changed nodes are dropped from the
cache. -/
def tryAlone (now : Time) (e : Engine) (item : Json) : Except ValidationError Engine := do
  let op ← BatchOperation.parse item
  let store ← op.apply now e.store
  return (op.removedNode?.toList.foldl forgetNode { e with store }).dropDirty

/-- Tries items one at a time from some place on. An item that fails changes nothing. -/
def tryEach (clock : Nat → Time) : Nat → List Json → Engine → Engine × List BatchFailure
  | _, [], e => (e, [])
  | i, item :: rest, e =>
    match e.tryAlone (clock i) item with
    | .ok e => tryEach clock (i + 1) rest e
    | .error fault =>
      let (e, failed) := tryEach clock (i + 1) rest e
      (e, ⟨i, fault.message⟩ :: failed)

/-- Tries as many chunks of a run. -/
def runChunks (clock : Nat → Time) (e : Engine) (run : BatchRun) : Nat → Engine × BatchRun
  | 0 => (e, run)
  | n + 1 =>
    let (e, run) := runChunks clock e run n
    e.runChunk (clock n) run

/-- The engines differ at most in the times of their histories and in measured times. -/
def SameButClock (e e' : Engine) : Prop := e.untimed = e'.untimed

theorem tryAlone_eq (now : Time) (e : Engine) (item : Json) :
    e.tryAlone now item = (judge e.store item).map fun a => e.advance now [.ok a] := by
  simp only [tryAlone, judge, bind, Except.bind]
  cases BatchOperation.parse item with
  | error fault => rfl
  | ok op =>
    simp only [BatchOperation.apply_eq]
    cases hplan : op.plan e.store with
    | error fault => rfl
    | ok a =>
      have hremoved : op.removedNode?.toList = removed [.ok a] := by
        rw [← (BatchOperation.plan_removed hplan).1, removed_ok]
      simp only [Except.map, pure, Except.pure, hremoved]
      rfl

theorem dropDirty_of_clean {e : Engine} (h : e.store.dirty = ∅) : e.dropDirty = e := by
  have hswept : e.store.swept = e.store := by
    rw [Store.swept, Store.takeDirty, ← h]
  rw [dropDirty_eq, hswept, h]
  rfl

theorem advance_dropDirty (now : Time) (e : Engine) (vs : List Verdict) :
    e.dropDirty.advance now vs = e.advance now vs :=
  (advance_append now e [] vs).symm

theorem all_advance (now now' : Time) (e : Engine) (vs : List Verdict) (items : List Json) :
    all now items (e.advance now' vs).store = all now items (e.store.perform now' (accepted vs)) := by
  rw [advance_eq]
  exact all_swept ..

theorem tryEach_eq (clock : Nat → Time) (items : List Json) {e : Engine} (h : e.store.dirty = ∅) (i : Nat) :
    (tryEach clock i items e).1.untimed =
        e.untimed.advance .erased (all .erased items e.untimed.store) ∧
      (tryEach clock i items e).2 = refusals i (all .erased items e.untimed.store) := by
  induction items generalizing e i with
  | nil => exact ⟨(dropDirty_of_clean (e := e.untimed) h).symm, rfl⟩
  | cons item rest ih =>
    have hj : judge e.untimed.store item = judge e.store item := judge_congr rfl rfl item
    simp only [tryEach, tryAlone_eq, all, hj]
    cases judge e.store item with
    | error fault =>
      obtain ⟨h₁, h₂⟩ := ih h (i + 1)
      exact ⟨h₁, congrArg (_ :: ·) h₂⟩
    | ok a =>
      obtain ⟨h₁, h₂⟩ := ih (e := e.advance (clock i) [.ok a]) rfl (i + 1)
      have hstore : all .erased rest (e.advance (clock i) [.ok a]).untimed.store =
          all .erased rest (Verdict.store .erased e.untimed.store (.ok a)) := by
        rw [advance_untimed, all_advance]
        rfl
      rw [hstore, advance_untimed] at h₁
      rw [hstore] at h₂
      refine ⟨?_, h₂⟩
      simp only [Except.map]
      rw [h₁, ← advance_append]
      rfl

/-- The items of the first so many chunks. -/
def chunked (e : Engine) (run : BatchRun) (n : Nat) : List Json :=
  run.pending.take (n * max e.config.batchChunkSize 1)

theorem chunked_succ (e : Engine) (run : BatchRun) (n : Nat) : e.chunked run (n + 1) =
    e.chunked run n ++
      (run.pending.drop (n * max e.config.batchChunkSize 1)).take (max e.config.batchChunkSize 1) := by
  rw [chunked, Nat.succ_mul, List.take_add, chunked]

theorem drop_chunked (e : Engine) (run : BatchRun) (n : Nat) :
    run.pending.drop (e.chunked run n).length = run.pending.drop (n * max e.config.batchChunkSize 1) := by
  rw [chunked, List.length_take, Nat.min_def]
  split
  · rfl
  · rw [List.drop_length, List.drop_of_length_le (by omega)]

/-- Chunks come to advancing engine and run by the verdicts on their items. -/
theorem runChunks_eq (clock : Nat → Time) {e : Engine} {run : BatchRun} (h : e.store.dirty = ∅) (hr : run.Sound)
    (n : Nat) :
    (runChunks clock e run n).1.untimed =
        e.untimed.advance .erased (all .erased (e.chunked run n) e.untimed.store) ∧
      (runChunks clock e run n).2 =
        { run.advance (all .erased (e.chunked run n) e.untimed.store) with removed := [] } := by
  induction n with
  | zero =>
    have hnone : e.chunked run 0 = [] := by simp [chunked]
    rw [hnone]
    refine ⟨(dropDirty_of_clean (e := e.untimed) h).symm, ?_⟩
    simp only [runChunks, all, BatchRun.advance_nil, ← hr.removed]
  | succ n ih =>
    obtain ⟨he, hrun⟩ := ih
    simp only [runChunks]
    generalize hnext : runChunks clock e run n = next at he hrun ⊢
    obtain ⟨e', run'⟩ := next
    dsimp only at he hrun
    have hconfig : e'.config = e.config := by
      have := congrArg Engine.config (he.trans (advance_eq ..))
      exact this
    have hrest : run'.pending = run.pending.drop (n * max e.config.batchChunkSize 1) := by
      rw [hrun, ← drop_chunked]
      simp only [BatchRun.advance, length_all]
    have hsplit : e.chunked run (n + 1) =
        e.chunked run n ++ run'.pending.take (max e.config.batchChunkSize 1) := by
      rw [hrest, chunked_succ]
    have hle : run'.pending.length ≤ run'.total := by
      have htotal : run'.total = run.total := by rw [hrun]; rfl
      rw [htotal, hrest, List.length_drop]
      have := hr.pending
      omega
    have hlast : all (clock n) (run'.pending.take (max e.config.batchChunkSize 1)) e'.store =
        all .erased (run'.pending.take (max e.config.batchChunkSize 1))
          (e.untimed.store.perform .erased (accepted (all .erased (e.chunked run n) e.untimed.store))) := by
      rw [← all_untimed, ← all_advance, ← he]
      rfl
    have hfits : (all .erased (e.chunked run n) e.untimed.store).length ≤ run.pending.length := by
      rw [length_all, chunked, List.length_take]
      omega
    rw [runChunk_eq (clock n) e' hle (by rw [hrun]), hconfig, hlast, hsplit, all_append]
    refine ⟨?_, ?_⟩
    · rw [advance_append, ← he]
      exact advance_untimed ..
    · rw [BatchRun.advance_append hr.pending hfits, hrun]
      rfl

theorem tryEach_dropDirty (clock : Nat → Time) (items : List Json) (e : Engine) :
    (tryEach clock 0 items e.dropDirty).1.untimed = e.untimed.advance .erased (all .erased items e.untimed.store) ∧
      (tryEach clock 0 items e.dropDirty).2 = refusals 0 (all .erased items e.untimed.store) := by
  have hall : all .erased items e.dropDirty.untimed.store = all .erased items e.untimed.store :=
    all_swept .erased items e.untimed.store
  obtain ⟨h₁, h₂⟩ := tryEach_eq clock items (e := e.dropDirty) rfl 0
  rw [hall] at h₁ h₂
  exact ⟨h₁.trans (advance_dropDirty .erased e.untimed _), h₂⟩

/-- Exactly the items fail that are refused when their turn comes. -/
theorem mem_tryEach_iff (clock : Nat → Time) (items : List Json) (e : Engine) (i : Nat) (message : String) :
    ⟨i, message⟩ ∈ (tryEach clock 0 items e.dropDirty).2 ↔
      ∃ item fault, items[i]? = some item ∧ fault.message = message ∧
        (tryEach clock 0 (items.take i) e.dropDirty).1.tryAlone (clock i) item = .error fault := by
  have hjudge : ∀ item, judge (tryEach clock 0 (items.take i) e.dropDirty).1.store item =
      judge (e.untimed.store.perform .erased (accepted (all .erased (items.take i) e.untimed.store))) item := by
    intro item
    have h := (tryEach_dropDirty clock (items.take i) e).1.trans (advance_eq ..)
    exact judge_congr (congrArg (·.store.nodes) h) (congrArg (·.store.edges) h) item
  rw [(tryEach_dropDirty clock items e).2, mem_refusals]
  simp only [all_getElem?, tryAlone_eq, hjudge]
  constructor
  · rintro ⟨j, fault, hj, hverdict, hm⟩
    obtain rfl : i = j := by omega
    obtain ⟨item, hitem, hrefused⟩ := Option.map_eq_some_iff.mp hverdict
    exact ⟨item, fault, hitem, hm, by rw [hrefused]; rfl⟩
  · rintro ⟨item, fault, hitem, hm, hrefused⟩
    refine ⟨i, fault, (Nat.zero_add i).symm, ?_, hm⟩
    rw [hitem, Option.map_some]
    cases hj : judge (e.untimed.store.perform .erased (accepted (all .erased (items.take i) e.untimed.store))) item with
    | ok a => simp [hj, Except.map] at hrefused
    | error fault' =>
      simp only [hj, Except.map, Except.error.injEq] at hrefused
      rw [hrefused]

end Engine

/-- The report on a batch of which these items failed. -/
def BatchReport.onFailures (batchId : String) (total : Nat) (failed : List BatchFailure) (deferred : Bool)
    (elapsedNanos : Nat) : BatchReport :=
  { batchId, total, applied := total - failed.length, failed, deferred
    durationMs := OperationStats.millis elapsedNanos }

/-- How many chunks a deferred batch takes: as many as hold its items, and at least one. -/
def BatchRun.chunkCount (total chunk : Nat) : Nat := max 1 ((total + (max chunk 1 - 1)) / max chunk 1)

theorem BatchRun.chunkCount_le_iff {total chunk n : Nat} (hn : 0 < n) :
    chunkCount total chunk ≤ n ↔ total ≤ n * max chunk 1 := by
  have hpos : 0 < max chunk 1 := by omega
  rw [chunkCount, Nat.max_le, Nat.div_le_iff_le_mul_add_pred hpos, Nat.mul_comm]
  omega

namespace Engine
open Verdict

theorem length_failures (items : List Json) (s : Store) :
    (accepted (all .erased items s)).length + (refusals 0 (all .erased items s)).length = items.length := by
  rw [length_accepted_add_refusals, length_all]

theorem isFinished_iff {e : Engine} {run : BatchRun} (clock : Nat → Time) (h : e.store.dirty = ∅)
    (hr : run.Sound) {n : Nat} (hn : 0 < n) : (runChunks clock e run n).2.isFinished = true ↔
      BatchRun.chunkCount run.pending.length e.config.batchChunkSize ≤ n := by
  have hdrop : (runChunks clock e run n).2.pending =
      run.pending.drop (min (n * max e.config.batchChunkSize 1) run.pending.length) := by
    rw [(runChunks_eq clock h hr n).2]
    simp only [BatchRun.advance, length_all, chunked, List.length_take]
  rw [BatchRun.isFinished, hdrop, BatchRun.chunkCount_le_iff hn, List.isEmpty_iff, List.drop_eq_nil_iff]
  omega

/-- The report on a run whose items have all been tried. -/
theorem report_advance (batchId : String) (items : List Json) (deferred : Bool) (s : Store)
    (elapsedNanos : Nat) :
    ((BatchRun.start batchId items deferred).advance (all .erased items s)).report
        (OperationStats.millis elapsedNanos) =
      .onFailures batchId items.length (refusals 0 (all .erased items s)) deferred elapsedNanos := by
  have hlen := length_failures items s
  have happlied : (accepted (all .erased items s)).length =
      items.length - (refusals 0 (all .erased items s)).length := by omega
  simp only [BatchRun.report, BatchRun.advance, BatchRun.start, BatchRun.next, Nat.sub_self, List.nil_append,
    Nat.zero_add, BatchReport.onFailures, happlied]

theorem handle_inline (r : Reading) (e : Engine) (ticket : Ticket) {items : List Json}
    (h : items.length ≤ e.config.batchDeferThreshold) :
    let report := BatchReport.onFailures r.freshId items.length
      (refusals 0 (all .erased items e.untimed.store)) false r.elapsedNanos
    (e.handle r (.batch ticket items)).1.1.untimed =
        e.untimed.advance .erased (all .erased items e.untimed.store) ∧
      (e.handle r (.batch ticket items)).1.2 =
        announceFailures report ++ [.answer ticket (.batchApplied report)] ∧
      (e.handle r (.batch ticket items)).2 = none := by
  have hverdicts : all r.now items e.store = all .erased items e.untimed.store :=
    (all_untimed r.now items e.store).symm
  obtain ⟨profiler, heq⟩ := handle_eq r e (.batch ticket items)
  have hbatch := batch_at_once r e ticket (Nat.not_lt.mpr h)
  simp only [hverdicts, report_advance] at hbatch
  refine ⟨?_, ?_, ?_⟩
  · rw [heq]
    have h := advance_untimed r.now e (all .erased items e.untimed.store)
    rw [← h]
    simp only [dispatch, hbatch]
    rfl
  · rw [heq]
    simp only [dispatch, hbatch]
  · rw [heq]
    simp only [dispatch, hbatch]

theorem handle_deferred (r : Reading) (e : Engine) (ticket : Ticket) {items : List Json}
    (h : items.length > e.config.batchDeferThreshold) : e.handle r (.batch ticket items) =
      ((e.dropDirty, [.answer ticket (.batchDeferred r.freshId items.length)]),
        some (.start r.freshId items true)) := by
  simp only [handle, dispatch, batch, if_pos h]
  rfl

/-- A deferred batch that has been worked off to its end and closed. -/
theorem finishBatch_drained (clock : Nat → Time) {e : Engine} (h : e.store.dirty = ∅) (batchId : String)
    (items : List Json) (elapsedNanos : Nat) :
    let drained := runChunks clock e (.start batchId items true)
      (BatchRun.chunkCount items.length e.config.batchChunkSize)
    let report := BatchReport.onFailures batchId items.length
      (refusals 0 (all .erased items e.untimed.store)) true elapsedNanos
    (drained.1.finishBatch elapsedNanos drained.2).1.untimed =
        e.untimed.advance .erased (all .erased items e.untimed.store) ∧
      (drained.1.finishBatch elapsedNanos drained.2).2 =
        announceFailures report ++ [.batchFinished report] := by
  have hsound : (BatchRun.start batchId items true).Sound := ⟨Nat.le_refl _, rfl⟩
  have hpos : 0 < BatchRun.chunkCount items.length e.config.batchChunkSize := by
    rw [BatchRun.chunkCount]
    omega
  have hall : e.chunked (.start batchId items true) (BatchRun.chunkCount items.length e.config.batchChunkSize) =
      items := List.take_of_length_le ((BatchRun.chunkCount_le_iff hpos).mp (Nat.le_refl _))
  obtain ⟨hengine, hrun⟩ := runChunks_eq clock h hsound (BatchRun.chunkCount items.length e.config.batchChunkSize)
  rw [hall] at hengine hrun
  refine ⟨hengine, ?_⟩
  rw [← report_advance, hrun]
  rfl

/-- A batch ends, at once or after its chunks, as its items do when they are tried one at a time,
and with the same report. The report accounts for every item: exactly those fail that are refused in
their turn. Between two commands nothing is noted as changed, and the engine that the items are
tried on is the one that the batch finds. -/
theorem batch_tries_each_item (e : Engine) (r : Reading) (ticket : Ticket) (items : List Json)
    (clock chunkClock : Nat → Time) (closingNanos : Nat) :
    let each := tryEach clock 0 items e.dropDirty
    let report := BatchReport.onFailures r.freshId items.length each.2
    let handled := e.handle r (.batch ticket items)
    let run := BatchRun.start r.freshId items true
    let chunks := BatchRun.chunkCount items.length e.config.batchChunkSize
    let drained := runChunks chunkClock handled.1.1 run chunks
    let closed := drained.1.finishBatch closingNanos drained.2
    (∀ i message, ⟨i, message⟩ ∈ each.2 ↔
      ∃ item fault, items[i]? = some item ∧ fault.message = message ∧
        (tryEach clock 0 (items.take i) e.dropDirty).1.tryAlone (clock i) item = .error fault) ∧
    each.2.Pairwise (fun f g => f.index < g.index) ∧
    (∀ deferred nanos, (report deferred nanos).applied + (report deferred nanos).failed.length = items.length) ∧
    (∀ deferred nanos, announceFailures (report deferred nanos) = each.2.map fun f =>
      .emit .error (ErrorEvent.write ⟨.validation, s!"batch {r.freshId} item {f.index}: {f.error}"⟩)) ∧
    (items.length ≤ e.config.batchDeferThreshold →
      SameButClock handled.1.1 each.1 ∧ handled.2 = none ∧
      handled.1.2 = announceFailures (report false r.elapsedNanos) ++
        [.answer ticket (.batchApplied (report false r.elapsedNanos))]) ∧
    (items.length > e.config.batchDeferThreshold →
      handled.2 = some run ∧ handled.1.2 = [.answer ticket (.batchDeferred r.freshId items.length)] ∧
      (∀ n, 0 < n → ((runChunks chunkClock handled.1.1 run n).2.isFinished = true ↔ chunks ≤ n)) ∧
      SameButClock closed.1 each.1 ∧
      closed.2 = announceFailures (report true closingNanos) ++ [.batchFinished (report true closingNanos)]) := by
  intro each report handled run chunks drained closed
  obtain ⟨heach, hfailed⟩ := tryEach_dropDirty clock items e
  have hlen := length_failures items e.untimed.store
  refine ⟨mem_tryEach_iff clock items e, ?_, ?_, fun _ _ => rfl, ?_, ?_⟩
  · exact hfailed ▸ refusals_increasing 0 _
  · intro deferred nanos
    simp only [report, each, BatchReport.onFailures, hfailed]
    omega
  · intro hinline
    obtain ⟨hengine, heffects, hrun⟩ := handle_inline r e ticket hinline
    refine ⟨hengine.trans heach.symm, hrun, ?_⟩
    simp only [report, each, hfailed]
    exact heffects
  · intro hdeferred
    have hhandled := handle_deferred r e ticket hdeferred
    have hsound : run.Sound := ⟨Nat.le_refl _, rfl⟩
    have hstarted : handled.1.1 = e.dropDirty := congrArg (·.1.1) hhandled
    have hall : all .erased items e.dropDirty.untimed.store = all .erased items e.untimed.store :=
      all_swept .erased items e.untimed.store
    obtain ⟨hengine, heffects⟩ := finishBatch_drained chunkClock (e := e.dropDirty) rfl r.freshId items closingNanos
    rw [hall] at hengine heffects
    refine ⟨congrArg (·.2) hhandled, congrArg (·.1.2) hhandled, ?_, ?_, ?_⟩
    · intro n hn
      rw [hstarted]
      exact isFinished_iff chunkClock rfl hsound hn
    · simp only [closed, drained, hstarted]
      exact (hengine.trans (advance_dropDirty .erased e.untimed _)).trans heach.symm
    · simp only [closed, drained, hstarted, report, each, hfailed]
      exact heffects

end Engine
end CodeGraph
