import CodeGraph.Proofs.Engine.Session
import CodeGraph.Proofs.Graph.Repeated
/-!
The metrics that an engine stores are finite at any time: every edit clamps what it sets. So a stored node is always
found equal to itself.
-/
namespace CodeGraph

namespace Store
variable {s : Store}

theorem Finite.apply (h : s.Finite) (now : Time) (a : StoreAction) : (a.apply now s).Finite := by
  intro x n hn
  rcases node?_apply hn with hold | ⟨kind, change, payload, how, -, rfl⟩ | ⟨id, m, -, hm, rfl⟩
  · exact h hold
  · exact how.apply_finite (h.nodeOr x kind)
  · have hmetrics : m.metrics.Finite := h hm
    exact hmetrics

theorem Finite.perform (h : s.Finite) (now : Time) (as : List StoreAction) : (s.perform now as).Finite := by
  induction as generalizing s with
  | nil => exact h
  | cons a as ih => exact ih (h.apply now a)

end Store

namespace Session
variable {s : Session}

theorem step_finite (h : s.Sound) (hfinite : s.engine.store.Finite) (step : Step) :
    (s.step step).engine.store.Finite := by
  obtain ⟨e, hevolves, hstore, -⟩ := (step_settles h step).evolves
  obtain ⟨as, has, -⟩ := hevolves.store
  intro x n hn
  rw [hstore] at hn
  have hstored : (s.engine.store.perform step.reading.now as).node? x = some n := has ▸ hn
  exact hfinite.perform _ as hstored

theorem after_finite (config : Config) (steps : List Step) : ((start config).after steps).engine.store.Finite := by
  induction steps using List.reverseRecOn with
  | nil =>
    intro x n hn
    simp [start, Engine.empty, Store.empty, Store.node?] at hn
  | append_singleton steps step ih =>
    rw [after_concat]
    exact step_finite (after_sound (start_sound config) steps) ih step

end Session
end CodeGraph
