import CodeGraph.Proofs.Graph.Timeless
import CodeGraph.Proofs.Engine.Session
/-!
What verdicts on items do to the engine. It makes no difference whether the items are tried at once
or in parts, with changed nodes dropped from the cache in between, and the clock shows only in the
times of the history.
-/
namespace CodeGraph

namespace Verdict

theorem judge_congr {s s' : Store} (hn : s'.nodes = s.nodes) (he : s'.edges = s.edges) (item : Json) :
    judge s' item = judge s item := by
  simp only [judge, BatchOperation.plan_congr hn he]

theorem all_swept (now : Time) (items : List Json) (s : Store) : all now items s.swept = all now items s := by
  induction items generalizing s with
  | nil => rfl
  | cons item rest ih =>
    have hj : judge s.swept item = judge s item := judge_congr rfl rfl item
    simp only [all, hj, List.cons.injEq, true_and]
    cases judge s item with
    | error e => exact ih s
    | ok a =>
      simp only [store]
      rw [← ih (a.apply now s.swept), a.apply_swept, ih]

theorem all_untimed (now : Time) (items : List Json) (s : Store) :
    all .erased items s.untimed = all now items s := by
  induction items generalizing s with
  | nil => rfl
  | cons item rest ih =>
    have hj : judge s.untimed item = judge s item := judge_congr rfl rfl item
    simp only [all, hj, List.cons.injEq, true_and]
    cases judge s item with
    | error e => exact ih s
    | ok a =>
      simp only [store]
      rw [← a.apply_untimed now, ih]

end Verdict

namespace Engine
open Verdict

/-- The engine with the clock readings in its history and its measured times erased. -/
def untimed (e : Engine) : Engine := { e with store := e.store.untimed, profiler := {} }

theorem dropDirty_eq (e : Engine) : e.dropDirty = { e with
    store := e.store.swept
    derivedCache := { e.derivedCache with entries := e.store.dirty.toList.foldl (·.erase ·) e.derivedCache.entries } } := by
  simp only [dropDirty, Store.takeDirty, Store.swept, Cache.foldl_invalidate]

theorem advance_eq (now : Time) (e : Engine) (vs : List Verdict) : e.advance now vs = { e with
    store := (e.store.perform now (accepted vs)).swept
    derivedCache := { e.derivedCache with
      entries := (e.store.perform now (accepted vs)).dirty.toList.foldl (·.erase ·) e.derivedCache.entries }
    pendingAnalyses := (removed vs).foldl (·.erase ·) e.pendingAnalyses
    analysisCache := { e.analysisCache with entries := (removed vs).foldl (·.erase ·) e.analysisCache.entries }
    searchResults := (removed vs).foldl (·.erase ·) e.searchResults } := by
  rw [advance, foldl_forgetNode, dropDirty_eq]

/-- Trying items in two parts comes to the same as trying them at once. -/
theorem advance_append (now : Time) (e : Engine) (vs ws : List Verdict) :
    e.advance now (vs ++ ws) = (e.advance now vs).advance now ws := by
  have hstore : (e.store.perform now (accepted (vs ++ ws))).swept =
      ((e.store.perform now (accepted vs)).swept.perform now (accepted ws)).swept := by
    rw [accepted_append, Store.perform_append, Store.perform_swept]
  have hentries : (e.store.perform now (accepted (vs ++ ws))).dirty.toList.foldl (·.erase ·)
        e.derivedCache.entries =
      ((e.store.perform now (accepted vs)).swept.perform now (accepted ws)).dirty.toList.foldl (·.erase ·)
        ((e.store.perform now (accepted vs)).dirty.toList.foldl (·.erase ·) e.derivedCache.entries) := by
    apply Std.ExtTreeMap.ext_getElem?
    intro k
    have hdirty := (e.store.perform now (accepted vs)).mem_dirty_perform_swept now (accepted ws) k
    simp only [Cache.getElem?_foldl_erase, Std.ExtTreeSet.mem_toList, accepted_append, Store.perform_append, hdirty]
    grind
  simp only [advance_eq, hstore, hentries, removed_append, List.foldl_append]

theorem advance_untimed (now : Time) (e : Engine) (vs : List Verdict) :
    (e.advance now vs).untimed = e.untimed.advance .erased vs := by
  have hstore : (e.store.perform now (accepted vs)).untimed = e.store.untimed.perform .erased (accepted vs) :=
    Store.perform_untimed ..
  rw [advance_eq, advance_eq]
  simp only [untimed, ← hstore]
  rfl

end Engine
end CodeGraph
