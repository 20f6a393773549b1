import CodeGraph.Proofs.Engine.Worker
/-!
What every move of the worker keeps: where it stands in serving the commands one after the other,
which of those that arrived are still to come, and how much of what is due is left.
-/
namespace CodeGraph.Worker
open Engine

/-- Where a worker stands: between two commands, or within a batch that the latest one deferred. -/
inductive Stands (e : Engine) (log : List Handling) (w : Worker) : Prop where
  | between : w.run = none → Serves e log w.engine → Stands e log w
  | within (past : List Handling) (h : Handling) (clock : Nat → Time) (n : Nat) (start run : BatchRun) :
    log = past ++ [h] → Serves e past h.engine → (h.engine.handle h.reading h.command).2 = some start →
    w.run = some run → runChunks clock (h.engine.handle h.reading h.command).1.1 start n = (w.engine, run) →
    n < BatchRun.chunkCount start.pending.length h.engine.config.batchChunkSize → Stands e log w

/-- What is known of the engine that a command which started a run leaves. -/
theorem handle_started {r : Reading} {e : Engine} {c : Command} {run : BatchRun}
    (h : (e.handle r c).2 = some run) : (e.handle r c).1.1.store.dirty = ∅ ∧
      (e.handle r c).1.1.config = e.config ∧ run.Sound := by
  obtain ⟨ticket, items, rfl, hlen, rfl⟩ := handle_run r e c h
  rw [handle_deferred r e ticket hlen]
  exact ⟨rfl, rfl, Nat.le_refl _, rfl⟩

theorem chunkCount_pos (total chunk : Nat) : 0 < BatchRun.chunkCount total chunk := by
  rw [BatchRun.chunkCount]
  omega

/-- A chunk more, after as many as some clock gave times for. -/
theorem runChunks_next (clock : Nat → Time) (now : Time) (e : Engine) (run : BatchRun) (n : Nat) :
    runChunks (Function.update clock n now) e run (n + 1) =
      (runChunks clock e run n).1.runChunk now (runChunks clock e run n).2 := by
  have hsame : runChunks (Function.update clock n now) e run n = runChunks clock e run n :=
    runChunks_congr (fun i hi => Function.update_of_ne (Nat.ne_of_lt hi) ..) e run
  rw [runChunks, hsame, Function.update_self]

theorem Stands.served {e : Engine} {log : List Handling} {w : Worker} (h : Stands e log w) (hr : w.run = none) :
    Serves e log w.engine := by
  cases h with
  | between _ hserves => exact hserves
  | within past c clock n start run _ _ _ hsome =>
    rw [hr] at hsome
    cases hsome

theorem Stands.turn_run {e : Engine} {log : List Handling} {w : Worker} {r : Reading} {run : BatchRun}
    (h : Stands e log w) (hs : w.stopped = false) (hr : w.run = some run) :
    Stands e log (w.move (.turn r)) := by
  cases h with
  | between hnone _ =>
    rw [hr] at hnone
    cases hnone
  | within past c clock n start run' hlog hpast hstart hrun hchunks hn =>
    rw [hr] at hrun
    cases hrun
    obtain ⟨hclean, hconfig, hsound⟩ := handle_started hstart
    have hnext := runChunks_next clock r.now (c.engine.handle c.reading c.command).1.1 start n
    rw [hchunks] at hnext
    have hfinished := isFinished_iff (Function.update clock n r.now) hclean hsound (Nat.succ_pos n)
    rw [hnext, hconfig] at hfinished
    rw [Worker.turn_run hs hr]
    split
    · next hend =>
      have hcount := hfinished.mp hend
      have hserve : c.engine.serve c.reading (Function.update clock n r.now) r.elapsedNanos c.command =
          ((w.engine.runChunk r.now run).1.finishBatch r.elapsedNanos (w.engine.runChunk r.now run).2).1 := by
        have hlast : BatchRun.chunkCount start.pending.length c.engine.config.batchChunkSize = n + 1 :=
          Nat.le_antisymm hcount hn
        simp only [serve, hstart, hlast, hnext]
      refine .between rfl ?_
      rw [hlog]
      exact hserve ▸ hpast.next c _ _
    · next hend =>
      refine .within past c (Function.update clock n r.now) (n + 1) start _ hlog hpast hstart rfl hnext ?_
      rw [← Nat.not_le]
      exact fun hcount => hend (hfinished.mpr hcount)

theorem Stands.turn_command {e : Engine} {log : List Handling} {w : Worker} {r : Reading} {c : Command}
    {rest : List Command} (h : Stands e log w) (hs : w.stopped = false) (hr : w.run = none)
    (hq : w.queue = c :: rest) (hc : c.isShutdown = false) :
    Stands e (log ++ [⟨r, c, w.engine⟩]) (w.move (.turn r)) := by
  have hserves := h.served hr
  rw [Worker.turn_command hs hr hq hc]
  cases hrun : (w.engine.handle r c).2 with
  | none =>
    have hserve : w.engine.serve r (fun _ => r.now) 0 c = (w.engine.handle r c).1.1 := by
      simp only [serve, hrun]
    exact .between rfl (hserve ▸ Serves.next ⟨r, c, w.engine⟩ _ _ hserves)
  | some run =>
    exact .within log ⟨r, c, w.engine⟩ (fun _ => r.now) 0 run run rfl hserves hrun rfl rfl (chunkCount_pos ..)

theorem post_eq (w : Worker) (c : Command) : (w.post c).engine = w.engine ∧ (w.post c).run = w.run ∧
    (w.post c).stopped = w.stopped ∧ (w.post c).queue = if w.stopped then w.queue else w.queue ++ [c] := by
  unfold post
  split
  · next hs => exact ⟨rfl, rfl, rfl, rfl⟩
  · next hs => exact ⟨rfl, rfl, rfl, rfl⟩

theorem Stands.move {e : Engine} {log : List Handling} {w : Worker} (h : Stands e log w) (m : Move) :
    Stands e (log ++ (w.begins m).toList) (w.move m) := by
  cases m with
  | post c =>
    obtain ⟨hengine, hrun, -⟩ := post_eq w c
    simp only [begins, Option.toList_none, List.append_nil, Worker.move]
    cases h with
    | between hnone hserves => exact .between (hrun.trans hnone) (hengine ▸ hserves)
    | within past c' clock n start run hlog hpast hstart hsome hchunks hn =>
      exact .within past c' clock n start run hlog hpast hstart (hrun.trans hsome) (hengine ▸ hchunks) hn
  | turn r =>
    cases w.finds r with
    | stopped _ hb hm => simpa only [hb, hm, Option.toList_none, List.append_nil] using h
    | run run hs hr hb => simpa only [hb, Option.toList_none, List.append_nil] using h.turn_run hs hr
    | nothing _ _ _ hb hm => simpa only [hb, hm, Option.toList_none, List.append_nil] using h
    | shutdown rest _ hr _ hb hm =>
      simp only [hb, hm, Option.toList_none, List.append_nil]
      exact .between hr (h.served hr)
    | command c rest hs hr hq hc hb => simpa only [hb, Option.toList_some] using h.turn_command hs hr hq hc

/-- What has arrived is what was handled and what is still in the queue; of a worker that has
stopped, what was handled and then the command to shut down. -/
structure Accounts (arrived : List Command) (log : List Handling) (w : Worker) : Prop where
  handled : ∀ h ∈ log, h.command.isShutdown = false
  working : w.stopped = false → arrived = log.map (·.command) ++ w.queue
  stopped : w.stopped = true → w.run = none ∧ ∃ rest, arrived = log.map (·.command) ++ .shutdown :: rest

theorem Accounts.move {arrived : List Command} {log : List Handling} {w : Worker} (h : Accounts arrived log w)
    (m : Move) : Accounts (arrived ++ posted [m]) (log ++ (w.begins m).toList) (w.move m) := by
  cases m with
  | post c =>
    obtain ⟨-, hrun, hstopped, hqueue⟩ := post_eq w c
    simp only [begins, Option.toList_none, List.append_nil, Worker.move]
    constructor
    · exact h.handled
    · intro hs
      rw [hstopped] at hs
      rw [hqueue, hs, h.working hs]
      simp [posted]
    · intro hs
      rw [hstopped] at hs
      obtain ⟨hnone, rest, harrived⟩ := h.stopped hs
      exact ⟨hrun.trans hnone, rest ++ [c], by simp [posted, harrived]⟩
  | turn r =>
    have hnothing : arrived ++ posted [.turn r] = arrived := by simp [posted]
    rw [hnothing]
    cases w.finds r with
    | stopped _ hb hm => simpa only [hb, hm, Option.toList_none, List.append_nil] using h
    | run run hs hr hb =>
      simp only [hb, Option.toList_none, List.append_nil]
      have hkept : (w.move (.turn r)).stopped = w.stopped ∧ (w.move (.turn r)).queue = w.queue := by
        rw [Worker.turn_run hs hr]
        split <;> exact ⟨rfl, rfl⟩
      refine ⟨h.handled, ?_, ?_⟩
      · intro _
        rw [hkept.2]
        exact h.working hs
      · intro hs'
        rw [hkept.1, hs] at hs'
        cases hs'
    | nothing _ _ _ hb hm => simpa only [hb, hm, Option.toList_none, List.append_nil] using h
    | shutdown rest hs hr hq hb hm =>
      simp only [hb, hm, Option.toList_none, List.append_nil]
      refine ⟨h.handled, ?_, ?_⟩
      · intro hs'
        cases hs'
      · intro _
        exact ⟨hr, rest, by rw [h.working hs, hq]⟩
    | command c rest hs hr hq hc hb =>
      simp only [hb, Option.toList_some]
      rw [Worker.turn_command hs hr hq hc]
      refine ⟨?_, ?_, ?_⟩
      · intro g hg
        rcases List.mem_append.mp hg with hg | hg
        · exact h.handled g hg
        · rw [List.mem_singleton] at hg
          rw [hg]
          exact hc
      · intro _
        simp [h.working hs, hq]
      · intro hs'
        rw [hs] at hs'
        cases hs'

/-- The commands before the first that shuts down. -/
def due (commands : List Command) : List Command := commands.takeWhile (!·.isShutdown)

theorem Accounts.due_eq {arrived : List Command} {log : List Handling} {w : Worker} (h : Accounts arrived log w) :
    due arrived = log.map (·.command) ++ if w.stopped then [] else due w.queue := by
  have hopen : ∀ c ∈ log.map (·.command), (!c.isShutdown) = true := by
    intro c hc
    obtain ⟨g, hg, rfl⟩ := List.mem_map.mp hc
    simp [h.handled g hg]
  cases hs : w.stopped with
  | false => rw [h.working hs, due, List.takeWhile_append_of_pos hopen, if_neg nofun, due]
  | true =>
    obtain ⟨-, rest, harrived⟩ := h.stopped hs
    rw [harrived, due, List.takeWhile_append_of_pos hopen, if_pos rfl,
      List.takeWhile_cons_of_neg (by simp [Command.isShutdown])]

/-- An idle worker has handled everything that was due. -/
theorem Accounts.idle {arrived : List Command} {log : List Handling} {w : Worker} (h : Accounts arrived log w)
    (hidle : w.isIdle = true) : w.run = none ∧ log.map (·.command) = due arrived := by
  rw [h.due_eq]
  cases hs : w.stopped with
  | true => exact ⟨(h.stopped hs).1, by rw [if_pos rfl, List.append_nil]⟩
  | false =>
    simp only [isIdle, hs, Bool.false_or, Bool.and_eq_true, Option.isNone_iff_eq_none, List.isEmpty_iff] at hidle
    refine ⟨hidle.1, ?_⟩
    rw [if_neg nofun, hidle.2, due, List.takeWhile_nil, List.append_nil]

/-- An upper bound for the steps that a command takes. -/
def commandWork : Command → Nat
  | .batch _ items => items.length + 2
  | _ => 1

def runWork (run : Option BatchRun) : Nat := (run.map fun run => run.pending.length + 1).getD 0

theorem work_eq (w : Worker) : w.work = total (w.queue.map commandWork) + runWork w.run := rfl

theorem commandWork_pos (c : Command) : 0 < commandWork c := by
  unfold commandWork
  split <;> omega

def turns (moves : List Move) : Nat :=
  (moves.filter fun
    | .post _ => false
    | .turn _ => true).length

/-- The batch that is being worked off is between two of its chunks. -/
def RunSound (w : Worker) : Prop := ∀ run, w.run = some run → run.Sound

theorem runWork_turn {w : Worker} {r : Reading} {run : BatchRun} (h : w.RunSound) (hs : w.stopped = false)
    (hr : w.run = some run) : (w.move (.turn r)).RunSound ∧
      runWork (w.move (.turn r)).run < runWork w.run ∧ (w.move (.turn r)).queue = w.queue ∧
      (w.move (.turn r)).stopped = false := by
  obtain ⟨hsound, hlen⟩ := runChunk_sound r.now w.engine (h run hr)
  rw [Worker.turn_run hs hr]
  split
  · exact ⟨nofun, by simp [runWork, hr], rfl, hs⟩
  · next hend =>
    refine ⟨?_, ?_, rfl, hs⟩
    · intro next hnext
      rw [← Option.some.inj hnext]
      exact hsound
    · have hleft : 0 < (w.engine.runChunk r.now run).2.pending.length := by
        rw [List.length_pos_iff]
        exact fun hnil => hend (by simp [BatchRun.isFinished, hnil])
      simp only [runWork, hr, Option.map_some, Option.getD_some]
      omega

theorem runWork_command {w : Worker} {r : Reading} {c : Command} {rest : List Command} (hs : w.stopped = false)
    (hr : w.run = none) (hq : w.queue = c :: rest) (hc : c.isShutdown = false) :
    (w.move (.turn r)).RunSound ∧ runWork (w.move (.turn r)).run < commandWork c ∧
      (w.move (.turn r)).queue = rest ∧ (w.move (.turn r)).stopped = false := by
  rw [Worker.turn_command hs hr hq hc]
  refine ⟨fun run hrun => (handle_started hrun).2.2, ?_, rfl, hs⟩
  cases hrun : (w.engine.handle r c).2 with
  | none => exact commandWork_pos c
  | some run =>
    obtain ⟨ticket, items, rfl, -, rfl⟩ := handle_run r w.engine c hrun
    simp only [runWork, commandWork, BatchRun.start, Option.map_some, Option.getD_some]
    omega

/-- Whatever is handed over meanwhile, what is in the queue is handled within as many turns as it is
work. -/
theorem due_handled (moves : List Move) {w : Worker} (h : w.RunSound) (hs : w.stopped = false)
    {old new : List Command} (hq : w.queue = old ++ new)
    (hwork : total (old.map commandWork) + runWork w.run ≤ turns moves) :
    due old <+: (w.log moves).map (·.command) := by
  induction moves generalizing w old new with
  | nil =>
    cases old with
    | nil => exact List.nil_prefix
    | cons c old =>
      have := commandWork_pos c
      simp only [turns, List.map_cons, total, List.foldr_cons, List.filter_nil, List.length_nil] at hwork
      omega
  | cons m moves ih =>
    cases m with
    | post c =>
      obtain ⟨-, hrun, hstopped, hqueue⟩ := post_eq w c
      have hturns : turns (.post c :: moves) = turns moves := rfl
      rw [hturns] at hwork
      have hq' : (w.post c).queue = old ++ (new ++ [c]) := by
        rw [hqueue, hs, if_neg nofun, hq, List.append_assoc]
      exact ih (fun run hsome => h run (hrun ▸ hsome)) (hstopped.trans hs) hq' (by rwa [hrun])
    | turn r =>
      have hturns : turns (.turn r :: moves) = turns moves + 1 := rfl
      rw [hturns] at hwork
      simp only [log, List.map_append]
      cases w.finds r with
      | stopped hstopped _ _ =>
        rw [hs] at hstopped
        cases hstopped
      | run run _ hr hb =>
        obtain ⟨hsound, hless, hqueue, hstopped⟩ := runWork_turn (r := r) h hs hr
        simp only [hb, Option.toList_none, List.map_nil, List.nil_append]
        exact ih hsound hstopped (hqueue.trans hq) (by omega)
      | nothing _ _ hnil _ _ =>
        rw [hnil] at hq
        rw [(List.append_eq_nil_iff.mp hq.symm).1]
        exact List.nil_prefix
      | shutdown rest _ _ hqueue _ _ =>
        cases old with
        | nil => exact List.nil_prefix
        | cons c old =>
          rw [hqueue, List.cons_append] at hq
          cases hq
          exact List.nil_prefix
      | command c rest _ hr hqueue hc hb =>
        obtain ⟨hsound, hless, hrest, hstopped⟩ := runWork_command (r := r) hs hr hqueue hc
        cases old with
        | nil => exact List.nil_prefix
        | cons c' old =>
          rw [hqueue, List.cons_append] at hq
          cases hq
          have hsplit : due (c :: old) = c :: due old := List.takeWhile_cons_of_pos (by simp [hc])
          simp only [hb, Option.toList_some, List.map_cons, List.map_nil, List.singleton_append, hsplit]
          refine (List.cons_prefix_cons).mpr ⟨rfl, ih hsound hstopped hrest ?_⟩
          simp only [List.map_cons, total, List.foldr_cons] at hwork ⊢
          omega

theorem serves_before {e e' : Engine} {log : List Handling} (h : Serves e log e') {before rest : List Handling}
    {g : Handling} (hlog : log = before ++ g :: rest) : Serves e before g.engine := by
  induction h generalizing before rest g with
  | none => simp at hlog
  | next last clock closingNanos hpast ih =>
    rcases List.eq_nil_or_concat rest with rfl | ⟨rest', final, rfl⟩
    · obtain ⟨rfl, hlast⟩ := List.append_inj' hlog rfl
      cases hlast
      exact hpast
    · rw [List.concat_eq_append, ← List.cons_append, ← List.append_assoc] at hlog
      exact ih (List.append_inj' hlog rfl).1

theorem Stands.before {e : Engine} {log : List Handling} {w : Worker} (h : Stands e log w)
    {before rest : List Handling} {g : Handling} (hlog : log = before ++ g :: rest) : Serves e before g.engine := by
  cases h with
  | between _ hserves => exact serves_before hserves hlog
  | within past c clock n start run hpast hserves =>
    exact serves_before (hserves.next c clock 0) (hpast ▸ hlog)

section Run
variable (e : Engine) (queue : List Command) (moves : List Move)

theorem stands : Stands e (log { engine := e, queue } moves) (after { engine := e, queue } moves) := by
  induction moves using List.reverseRecOn with
  | nil => exact .between rfl (.none e)
  | append_singleton moves m ih =>
    rw [log_concat, after_concat]
    exact ih.move m

theorem accounts : Accounts (queue ++ posted moves) (log { engine := e, queue } moves)
    (after { engine := e, queue } moves) := by
  induction moves using List.reverseRecOn with
  | nil => exact ⟨by simp [log], by simp [log, posted, after], nofun⟩
  | append_singleton moves m ih =>
    rw [log_concat, after_concat, posted, List.filterMap_append, ← List.append_assoc]
    exact ih.move m

theorem runSound : (after { engine := e, queue } moves).RunSound := by
  induction moves using List.reverseRecOn with
  | nil => exact nofun
  | append_singleton moves m ih =>
    rw [after_concat]
    generalize after { engine := e, queue } moves = w at ih ⊢
    cases m with
    | post c => exact fun run hrun => ih run ((post_eq w c).2.1 ▸ hrun)
    | turn r =>
      cases w.finds r with
      | stopped _ _ hm => rwa [hm]
      | run run hs hr _ => exact (runWork_turn ih hs hr).1
      | nothing _ _ _ _ hm => rwa [hm]
      | shutdown rest _ hr _ _ hm =>
        rw [hm]
        exact ih
      | command c rest hs hr hq hc _ => exact (runWork_command hs hr hq hc).1

/-- Commands are handled once each and in order of their arrival, none behind the first that shuts
down; each finds the engine that serving the earlier ones has left, where a batch is served by
trying all of its items. What has arrived is handled within as many turns as it is work, and a
worker that is idle has handled everything. -/
theorem commands_served_in_order :
    let w : Worker := { engine := e, queue }
    (w.log moves).map (·.command) <+: due (queue ++ posted moves) ∧
    (∀ before h rest, w.log moves = before ++ h :: rest → Serves e before h.engine) ∧
    ((w.after moves).isIdle = true → (w.log moves).map (·.command) = due (queue ++ posted moves) ∧
      Serves e (w.log moves) (w.after moves).engine) ∧
    (∀ before more, moves = before ++ more → (w.after before).work ≤ turns more →
      due (queue ++ posted before) <+: (w.log moves).map (·.command)) ∧
    ∀ r clock clock' closingNanos (e' : Engine) ticket items,
      SameButClock (e'.serve r clock closingNanos (.batch ticket items))
        (tryEach clock' 0 items e'.dropDirty).1 := by
  intro w
  have hstands := stands e queue moves
  have haccounts := accounts e queue moves
  refine ⟨?_, fun before h rest hlog => hstands.before hlog, ?_, ?_, ?_⟩
  · rw [haccounts.due_eq]
    exact List.prefix_append ..
  · intro hidle
    obtain ⟨hrun, hall⟩ := haccounts.idle hidle
    exact ⟨hall, hstands.served hrun⟩
  · rintro before more rfl hwork
    rw [(accounts e queue before).due_eq, log_append, List.map_append]
    refine (List.prefix_append_right_inj _).mpr ?_
    cases hs : (w.after before).stopped with
    | true => exact List.nil_prefix
    | false =>
      exact due_handled more (runSound e queue before) hs (List.append_nil _).symm (by rwa [← work_eq])
  · intro r clock clock' closingNanos e' ticket items
    exact serve_batch ..

end Run
end CodeGraph.Worker
