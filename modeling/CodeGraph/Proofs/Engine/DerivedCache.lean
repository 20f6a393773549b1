import Mathlib.Data.List.Induction
import CodeGraph.Proofs.Engine.Session
import CodeGraph.Proofs.Graph.Figures
/-!
The cached metrics of nodes. They are those of the current graph exactly as long as no removal of a
node takes an edge from a cached node that does not mention the removed one: such a node is not
noted as changed.
-/
namespace CodeGraph

/-- Every cached value is what would be derived now; only the time may differ. -/
def Engine.CacheAccurate (e : Engine) : Prop :=
  ∀ id entry, e.derivedCache.entries[id]? = some entry →
    ∃ n, e.store.node? id = some n ∧ entry.value = e.store.derive entry.value.computedAt n

/-- What the node and the edges of an answer themselves come to. -/
def NodeInfo.recount (i : NodeInfo) : DerivedMetrics :=
  let inDegree := (i.edges.filter (·.target == i.node.id)).length
  let dependents := max i.node.relationships.usedBy.size inDegree
  { inDegree
    outDegree := (i.edges.filter (·.source == i.node.id)).length
    dependencyCount := (addAll i.node.dependencies i.node.relationships.imports.toList).size
    dependentCount := dependents
    risk := i.node.metrics.risk dependents
    computedAt := i.derived.computedAt }

namespace Engine

theorem derive_recount {s : Store} {n : Node} {id : String} (hid : n.id = id) (now : Time) :
    s.derive now n = NodeInfo.recount ⟨n, s.edgesOf id, s.derive now n⟩ := by
  have hin : (s.edgesOf id).filter (·.target == id) = s.edgeList.filter (·.target == id) := by
    rw [Store.edgesOf, List.filter_filter]
    apply List.filter_congr
    intro e _
    by_cases h : e.target = id <;> simp [Edge.touches, h]
  have hout : (s.edgesOf id).filter (·.source == id) = s.edgeList.filter (·.source == id) := by
    rw [Store.edgesOf, List.filter_filter]
    apply List.filter_congr
    intro e _
    by_cases h : e.source = id <;> simp [Edge.touches, h]
  simp only [Store.derive, NodeInfo.recount, Store.dependents, Store.inDegree, Store.outDegree, hid, hin, hout]

/-- Where the cache is accurate, the numbers of an answer agree with the node and the edges beside
them. -/
theorem nodeInfo_recount {e : Engine} (h : e.CacheAccurate) (hw : e.store.WellFormed) {now : Time} {id : String}
    {info : NodeInfo} (hi : (e.nodeInfo now id).1 = some info) : info.derived = info.recount := by
  simp only [nodeInfo] at hi
  split at hi
  · cases hi
  · next n hn =>
    have hid : n.id = id := hw.node_id hn
    cases hcached : (e.derivedCache.get? id now.instant).1 with
    | none =>
      simp only [hcached, Option.some.injEq] at hi
      subst hi
      exact derive_recount hid now
    | some derived =>
      simp only [hcached, Option.some.injEq] at hi
      subst hi
      obtain ⟨entry, hentry, rfl⟩ := (Cache.get?_inherits e.derivedCache id now.instant).2 derived hcached
      obtain ⟨n', hn', hvalue⟩ := h id entry hentry
      rw [hn] at hn'
      cases hn'
      rw [hvalue]
      exact derive_recount hid _

theorem empty_accurate (config : Config) : (Engine.empty config).CacheAccurate := by
  intro id entry h
  simp [Engine.empty, Cache.empty] at h

/-- A value that stays cached was right before the step, and its node keeps its figures but for lost
edges. -/
theorem Settles.kept {now : Time} {e e' : Engine} {removals : List (Store × String)}
    (hs : Settles now e e' removals) (hw : e.store.WellFormed) (ha : e.CacheAccurate) {id : String}
    {entry : CacheEntry DerivedMetrics} (hentry : e'.derivedCache.entries[id]? = some entry) :
    ∃ n, e.store.node? id = some n ∧ entry.value = e.store.derive entry.value.computedAt n ∧
      Store.Keeps e.store e'.store id (Store.Loses removals id) := by
  obtain ⟨e₁, hev, hstore, hcache⟩ := hs.evolves
  obtain ⟨as, has, hrem⟩ := hev.store
  obtain ⟨hdirty, hold⟩ := hcache id entry hentry
  have hn : ∃ n, e.store.node? id = some n ∧ entry.value = e.store.derive entry.value.computedAt n := by
    rcases hev.cached id entry hold with ⟨first, hfirst, hvalue⟩ | ⟨n, t, -, hn, hvalue⟩
    · obtain ⟨n, hn, hright⟩ := ha id first hfirst
      exact ⟨n, hn, hvalue ▸ hright⟩
    · exact ⟨n, hn, by rw [hvalue]; rfl⟩
  obtain ⟨n, hn, hvalue⟩ := hn
  rw [has] at hdirty
  have hk := Store.keeps_perform hw now as hn hdirty
  rw [hrem, ← has] at hk
  rw [hstore]
  exact ⟨n, hn, hvalue, hk.node, hk.kept, hk.fewer, hk.less⟩

/-- A step keeps the cache accurate exactly if it takes no edge unnoted from a node that stays
cached. -/
theorem Settles.accurate_iff {now : Time} {e e' : Engine} {removals : List (Store × String)}
    (hs : Settles now e e' removals) (hw : e.store.WellFormed) (ha : e.CacheAccurate) :
    e'.CacheAccurate ↔ ∀ id ∈ e'.derivedCache.entries, ¬ Store.Loses removals id := by
  constructor
  · intro hacc id hid hlost
    obtain ⟨entry, hentry⟩ := Option.isSome_iff_exists.mp (Std.ExtTreeMap.mem_iff_isSome_getElem?.mp hid)
    obtain ⟨n, hn, hvalue, hk⟩ := hs.kept hw ha hentry
    obtain ⟨n', hn', hvalue'⟩ := hacc id entry hentry
    exact hk.derive_ne hw hlost hn hn' _ (hvalue'.symm.trans hvalue)
  · intro h id entry hentry
    obtain ⟨n, hn, hvalue, hk⟩ := hs.kept hw ha hentry
    have hmem : id ∈ e'.derivedCache.entries := by
      rw [Std.ExtTreeMap.mem_iff_isSome_getElem?, hentry]
      rfl
    obtain ⟨n', hn', hsame⟩ := hk.derive_eq hw (h id hmem) hn entry.value.computedAt
    exact ⟨n', hn', hvalue.trans hsame.symm⟩

end Engine

namespace Session

/-- No node that stays cached loses an edge to a removal without being noted as changed. -/
def Spares (s : Session) (step : Step) : Prop :=
  ∀ id ∈ (s.step step).engine.derivedCache.entries, ¬ Store.Loses (s.removals step) id

theorem accurate_iff_spares {s : Session} (h : s.Sound) (ha : s.engine.CacheAccurate) (steps : List Step) :
    (∀ before after, steps = before ++ after → (s.after before).engine.CacheAccurate) ↔
      ∀ before step after, steps = before ++ step :: after → (s.after before).Spares step := by
  have hstep : ∀ before step, (s.after before).engine.CacheAccurate →
      ((s.after (before ++ [step])).engine.CacheAccurate ↔ (s.after before).Spares step) := by
    intro before step hacc
    have hsound := after_sound h before
    rw [after_concat]
    exact (step_settles hsound step).accurate_iff hsound.wellFormed hacc
  constructor
  · intro hacc before step after heq
    exact (hstep before step (hacc before _ heq)).mp (hacc (before ++ [step]) after (by simp [heq]))
  · intro hspares before
    induction before using List.reverseRecOn with
    | nil => exact fun _ _ => ha
    | append_singleton before step ih =>
      intro after heq
      have heq' : steps = before ++ step :: after := by simp [heq]
      exact (hstep before step (ih _ heq')).mpr (hspares before step after heq')

/-- Along any run from the start, the cached metrics are those of the graph between any two steps
exactly if every step spares the cached nodes; and where they are, every answer agrees with
itself. -/
theorem cached_metrics_accurate_iff (config : Config) (steps : List Step) :
    ((∀ before after, steps = before ++ after → ((start config).after before).engine.CacheAccurate) ↔
      ∀ before step after, steps = before ++ step :: after → ((start config).after before).Spares step) ∧
    ∀ before, ((start config).after before).engine.CacheAccurate →
      ∀ now id info, (((start config).after before).engine.nodeInfo now id).1 = some info →
        info.derived = info.recount := by
  constructor
  · exact accurate_iff_spares (start_sound config) (Engine.empty_accurate config) steps
  · intro before hacc now id info hinfo
    exact Engine.nodeInfo_recount hacc (after_sound (start_sound config) before).wellFormed hinfo

/-- A node `a` with an edge to `b` is looked up, and then `b` is removed. -/
def bereavement : List Step :=
  let r : Reading := ⟨⟨⟨2024, 1, 1⟩, 43200, 0⟩, 0, "fresh"⟩
  let node (id : String) := Json.obj [("id", .str id), ("type", .str "file")]
  [ .handle r (.ask 0 (.upsertNode (node "a"))),
    .handle r (.ask 1 (.upsertNode (node "b"))),
    .handle r (.ask 2 (.upsertEdge (.obj [("from", .str "a"), ("to", .str "b")]))),
    .handle r (.ask 3 (.nodeInfo "a")),
    .handle r (.ask 4 (.removeNode "b"))]

/-- Afterwards the edge is still counted, although it is neither stored nor answered. -/
theorem bereavement_not_accurate :
    (¬ ∀ config steps, ((start config).after steps).engine.CacheAccurate) ∧
      ¬ ∀ config steps now id info,
        (((start config).after steps).engine.nodeInfo now id).1 = some info → info.derived = info.recount := by
  constructor
  · intro h
    have hcached : (((start {}).after bereavement).engine.derivedCache.entries["a"]?.map (·.value.outDegree)) =
        some 1 := by decide +kernel
    have hstored : ((start {}).after bereavement).engine.store.outDegree "a" = 0 := by decide +kernel
    obtain ⟨entry, hentry, hcount⟩ := Option.map_eq_some_iff.mp hcached
    obtain ⟨n, hn, hvalue⟩ := h {} bereavement "a" entry hentry
    have hid : n.id = "a" := (after_sound (start_sound {}) bereavement).wellFormed.node_id hn
    have hout : entry.value.outDegree = 0 := by
      rw [hvalue, Store.derive, hid, hstored]
    omega
  · intro h
    have hanswer : ((((start {}).after bereavement).engine.nodeInfo ⟨⟨2024, 1, 1⟩, 43200, 0⟩ "a").1.map
        fun i => (i.derived.outDegree, i.recount.outDegree)) = some (1, 0) := by decide +kernel
    obtain ⟨info, hinfo, hcounts⟩ := Option.map_eq_some_iff.mp hanswer
    rw [← h {} bereavement _ "a" info hinfo] at hcounts
    have := Prod.mk.inj hcounts
    omega

end Session
end CodeGraph
