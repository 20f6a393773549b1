import CodeGraph.Proofs.Engine.Awaited
import CodeGraph.Proofs.Graph.Figures
import CodeGraph.Proofs.Graph.Lookup
/-!
What the engine remembers of nodes beside the graph: the latest search results, and two caches. At any
time all of it is about nodes that are stored, for a node that is removed is forgotten in the same step, and
what is remembered anew is about a node at hand.
-/
namespace CodeGraph

namespace Store
variable {s : Store} {now : Time} {x : String}

/-- A node that is removed is noted as changed, also if it is stored anew. -/
theorem removed_dirty (as : List StoreAction) (hx : x ∈ (removals now as s).map (·.2)) :
    x ∈ (s.perform now as).dirty := by
  induction as generalizing s with
  | nil => cases hx
  | cons a as ih =>
    rw [removals, List.map_append, List.mem_append] at hx
    rcases hx with hx | hx
    · refine mem_dirty_perform now as ((a.mem_dirty_apply now s x).mpr (Or.inr ?_))
      cases a with
      | remove id =>
        simp only [removalBy, StoreAction.removed?, Option.toList_some, List.flatMap_singleton, removal] at hx
        split at hx
        · next hid =>
          rw [List.map_singleton, List.mem_singleton] at hx
          subst hx
          rw [contains_eq] at hid
          exact ⟨Option.isSome_iff_exists.mp hid, Or.inl rfl⟩
        · cases hx
      | _ => cases hx
    · exact ih hx

theorem search_stored (h : s.WellFormed) {term : String} (hx : x ∈ s.search term) : s.contains x = true := by
  simp only [search, searchNodes, addAll, Std.ExtTreeSet.mem_insertMany_list, List.contains_eq_mem, List.mem_map,
    List.mem_filter, decide_eq_true_eq] at hx
  rcases hx with hx | ⟨n, ⟨hn, -⟩, rfl⟩
  · simp at hx
  · rw [contains_eq, h.mem_nodeList hn, Option.isSome_some]

end Store

namespace Engine

/-- Something is remembered of a node: it was found by the latest search, or one of the caches has it. -/
def Remembers (e : Engine) (id : String) : Prop :=
  id ∈ e.searchResults ∨ id ∈ e.derivedCache.entries ∨ id ∈ e.analysisCache.entries

/-- Search results and analyses after some nodes are gone: none of these is among them, and what is new is
stored. -/
structure Recalls (e e' : Engine) (gone : List String) : Prop where
  search : ∀ {id}, id ∈ e'.searchResults → id ∉ gone ∧ (id ∈ e.searchResults ∨ e'.store.contains id = true)
  analysis : ∀ {id}, id ∈ e'.analysisCache.entries →
    id ∉ gone ∧ (id ∈ e.analysisCache.entries ∨ e'.store.contains id = true)

theorem mem_foldl_erase (ids : List String) (s : StringSet) (x : String) :
    x ∈ ids.foldl (·.erase ·) s ↔ x ∈ s ∧ x ∉ ids := by
  induction ids generalizing s with
  | nil => simp
  | cons id ids ih =>
    rw [List.foldl_cons, ih, Std.ExtTreeSet.mem_erase, Ne, Std.compare_eq_iff_eq, List.mem_cons, not_or, eq_comm]
    exact ⟨fun h => ⟨h.1.2, h.1.1, h.2⟩, fun h => ⟨⟨h.2.1, h.1⟩, h.2.2⟩⟩

namespace Recalls
variable {e e' : Engine}

theorem kept (hs : e'.searchResults = e.searchResults) (ha : e.analysisCache.Inherits e'.analysisCache) :
    Recalls e e' [] where
  search h := ⟨List.not_mem_nil, Or.inl (hs ▸ h)⟩
  analysis h := ⟨List.not_mem_nil, Or.inl (ha.mem h)⟩

theorem same (hs : e'.searchResults = e.searchResults) (ha : e'.analysisCache = e.analysisCache) : Recalls e e' [] :=
  kept hs (ha ▸ Cache.Inherits.refl _)

theorem dropDirty {gone : List String} (h : Recalls e e' gone) : Recalls e e'.dropDirty gone := ⟨h.search, h.analysis⟩

/-- What is removed is forgotten. -/
theorem forgotten (gone : List String) (hs : e'.searchResults = e.searchResults)
    (ha : e'.analysisCache = e.analysisCache) : Recalls e (gone.foldl forgetNode e') gone where
  search h := by
    rw [foldl_forgetNode, hs, mem_foldl_erase] at h
    exact ⟨h.2, Or.inl h.1⟩
  analysis h := by
    obtain ⟨entry, hentry⟩ := Cache.mem_iff.mp h
    rw [foldl_forgetNode, ha, Cache.getElem?_foldl_erase] at hentry
    split at hentry
    · cases hentry
    · next hgone => exact ⟨hgone, Or.inl (Cache.mem_iff.mpr ⟨entry, hentry⟩)⟩

end Recalls

section Commands
variable (r : Reading) (e : Engine)

/-- Events from outside neither search nor land. -/
theorem inbound_keeps (event : String) (payload : Json) :
    (e.inbound r event payload).1.searchResults = e.searchResults ∧
      (e.inbound r event payload).1.analysisCache = e.analysisCache := by
  unfold inbound
  split
  · exact ⟨rfl, rfl⟩
  · simp only [fileChanged]
    split <;> exact ⟨rfl, rfl⟩
  · simp only [dependenciesChanged]
    split
    · exact ⟨rfl, rfl⟩
    · split <;> exact ⟨rfl, rfl⟩
  · simp only [analysisUpdated]
    split <;> exact ⟨rfl, rfl⟩
  · exact ⟨rfl, rfl⟩
  · simp only [agentUpdate]
    split <;> exact ⟨rfl, rfl⟩
  · exact ⟨rfl, rfl⟩

theorem projectPulled_keeps (result : Except TransportError Json) :
    (e.projectPulled r.now result).1.searchResults = e.searchResults ∧
      (e.projectPulled r.now result).1.analysisCache = e.analysisCache := by
  unfold projectPulled
  split
  · split <;> exact ⟨rfl, rfl⟩
  · exact ⟨rfl, rfl⟩
  · exact ⟨rfl, rfl⟩

theorem inbound_recalls (event : String) (payload : Json) : Recalls e (e.inbound r event payload).1 [] :=
  Recalls.same (inbound_keeps r e event payload).1 (inbound_keeps r e event payload).2

theorem projectPulled_recalls (result : Except TransportError Json) :
    Recalls e (e.projectPulled r.now result).1 [] :=
  Recalls.same (projectPulled_keeps r e result).1 (projectPulled_keeps r e result).2

/-- An analysis is cached for a node at hand. -/
theorem analysisFinished_recalls (path : String) (seq : Nat) (result : Except TransportError Json) :
    Recalls e (e.analysisFinished r.now path seq result).1 [] := by
  simp only [analysisFinished]
  split
  · split
    · exact Recalls.same rfl rfl
    · simp only [applyAnalysis]
      split
      · exact Recalls.same rfl rfl
      · split
        · exact Recalls.same rfl rfl
        · next n hn =>
          refine ⟨fun h => ⟨List.not_mem_nil, Or.inl h⟩, fun h => ⟨List.not_mem_nil, ?_⟩⟩
          rcases Cache.mem_set h with rfl | h
          · exact Or.inr (by rw [Store.contains_eq]; exact hn ▸ rfl)
          · exact Or.inl h
  · exact Recalls.same rfl rfl

theorem removeNode_recalls (ticket : Ticket) (id : String) :
    Recalls e (e.query r ticket (.removeNode id)).1 ((e.store.removal id).map (·.2)) := by
  simp only [query, removeNode, Store.removal, Store.contains_eq]
  rcases e.store.removeNode_cases r.now id with ⟨hid, hr⟩ | ⟨n, s', hid, hr, -⟩
  · rw [hr, hid]
    exact Recalls.same rfl rfl
  · rw [hr, hid]
    have h : Recalls e ([id].foldl forgetNode { e with store := s' }) [id] := Recalls.forgotten [id] rfl rfl
    exact h

theorem nodeInfo_recalls (now : Time) (id : String) : Recalls e (e.nodeInfo now id).2 [] := by
  simp only [nodeInfo]
  split <;> exact Recalls.same rfl rfl

theorem batch_recalls (ticket : Ticket) (items : List Json) :
    Recalls e (e.batch r ticket items).1.1 ((e.removals r.now (.batch ticket items)).map (·.2)) := by
  by_cases h : items.length > e.config.batchDeferThreshold
  · simp only [batch, removals, if_pos h]
    exact Recalls.same rfl rfl
  · simp only [batch_at_once r e ticket h, removals, if_neg h, Store.removalsOf_snd]
    exact Recalls.forgotten _ rfl rfl

theorem query_recalls (hw : e.store.WellFormed) (ticket : Ticket) (q : Query) :
    Recalls e (e.query r ticket q).1 ((e.removals r.now (.ask ticket q)).map (·.2)) := by
  cases q with
  | upsertNode data =>
    simp only [query]
    split <;> exact Recalls.same rfl rfl
  | upsertEdge data =>
    simp only [query]
    split <;> exact Recalls.same rfl rfl
  | removeEdge source target =>
    simp only [query]
    split <;> exact Recalls.same rfl rfl
  | removeNode id => exact removeNode_recalls r e ticket id
  | nodeInfo id => exact nodeInfo_recalls e r.now id
  | analysis path => exact Recalls.kept rfl (Cache.get?_inherits _ _ _).1
  | search term =>
    exact ⟨fun h => ⟨List.not_mem_nil, Or.inr (Store.search_stored hw h)⟩, fun h => ⟨List.not_mem_nil, Or.inl h⟩⟩
  | _ => exact Recalls.same rfl rfl

theorem dispatch_recalls (hw : e.store.WellFormed) (c : Command) :
    Recalls e (e.dispatch r c).1.1 ((e.removals r.now c).map (·.2)) := by
  cases c with
  | inbound event payload => exact inbound_recalls r e event payload
  | analysisDue path seq content =>
    simp only [dispatch, analysisDue_fst]
    exact Recalls.same rfl rfl
  | answered purpose result =>
    cases purpose with
    | analysis path seq => exact analysisFinished_recalls r e path seq result
    | context ticket request => exact Recalls.same rfl rfl
    | project => exact projectPulled_recalls r e result
  | ask ticket q => exact query_recalls r e hw ticket q
  | batch ticket items => exact batch_recalls r e ticket items
  | optimizeCaches => exact Recalls.kept rfl (Cache.optimize_inherits _ _)
  | _ => exact Recalls.same rfl rfl

theorem advance_recalls (now : Time) (vs : List Verdict) : Recalls e (e.advance now vs) (Verdict.removed vs) := by
  have h : Recalls e ((Verdict.removed vs).foldl forgetNode
      { e with store := e.store.perform now (Verdict.accepted vs) }) (Verdict.removed vs) :=
    Recalls.forgotten _ rfl rfl
  exact h.dropDirty

end Commands

end Engine
namespace Session
variable {s : Session}

theorem step_recalls (h : s.Sound) (step : Step) : Engine.Recalls s.engine (s.step step).engine (s.removed step) := by
  cases step with
  | handle r c =>
    obtain ⟨profiler, heq⟩ := Engine.handle_eq r s.engine c
    have hdispatch := (Engine.dispatch_recalls r s.engine h.wellFormed c).dropDirty
    simp only [Session.step, heq]
    exact ⟨hdispatch.search, hdispatch.analysis⟩
  | chunk r place =>
    simp only [Session.step, removed, removals, nextItems, Store.removalsOf_snd]
    cases hrun : s.batches[place]? with
    | none => exact Engine.Recalls.same rfl rfl
    | some run =>
      have hsound := h.runs run (List.mem_of_getElem? hrun)
      simp only [Engine.runChunk_eq r.now s.engine hsound.pending hsound.removed]
      exact Engine.advance_recalls s.engine r.now _
  | finish r place =>
    simp only [Session.step, removed, removals]
    split <;> exact Engine.Recalls.same rfl rfl

/-- All that is remembered after a step is about stored nodes, and nothing about those that the step
removed, even if they are stored again. -/
theorem step_remembers (h : s.Sound) (hbefore : ∀ id, s.engine.Remembers id → s.engine.store.contains id = true)
    (step : Step) {id : String} (hid : (s.step step).engine.Remembers id) :
    (s.step step).engine.store.contains id = true ∧ id ∉ s.removed step := by
  obtain ⟨e₁, hev, hstore, hcached⟩ := (step_settles h step).evolves
  obtain ⟨as, has, hremovals⟩ := hev.store
  have hcontains : (s.step step).engine.store.contains id = e₁.store.contains id := by
    rw [hstore]
    rfl
  have hstays : s.engine.store.contains id = true → id ∉ s.removed step →
      (s.step step).engine.store.contains id = true := by
    intro hstored hgone
    rw [hcontains, has]
    exact Store.contains_perform as hstored (by rwa [hremovals])
  have hrecalls := step_recalls h step
  rcases hid with hid | hid | hid
  · obtain ⟨hgone, hold | hstored⟩ := hrecalls.search hid
    · exact ⟨hstays (hbefore id (Or.inl hold)) hgone, hgone⟩
    · exact ⟨hstored, hgone⟩
  · obtain ⟨entry, hentry⟩ := Cache.mem_iff.mp hid
    obtain ⟨hclean, hentry⟩ := hcached id entry hentry
    -- a removed node is noted as changed, so its metrics were dropped with those of the others
    have hgone : id ∉ s.removed step := by
      intro hgone
      rw [removed, ← hremovals] at hgone
      exact hclean (has ▸ Store.removed_dirty as hgone)
    refine ⟨?_, hgone⟩
    rcases hev.cached id entry hentry with ⟨old, hold, -⟩ | ⟨n, -, hsame, hn, -⟩
    · exact hstays (hbefore id (Or.inr (Or.inl (Cache.mem_iff.mpr ⟨old, hold⟩)))) hgone
    · rw [hcontains, hsame, Store.contains_eq, hn]
      rfl
  · obtain ⟨hgone, hold | hstored⟩ := hrecalls.analysis hid
    · exact ⟨hstays (hbefore id (Or.inr (Or.inr hold))) hgone, hgone⟩
    · exact ⟨hstored, hgone⟩

theorem after_remembers (h : s.Sound) (hbefore : ∀ id, s.engine.Remembers id → s.engine.store.contains id = true)
    (steps : List Step) (id : String) (hid : (s.after steps).engine.Remembers id) :
    (s.after steps).engine.store.contains id = true := by
  induction steps generalizing s with
  | nil => exact hbefore id hid
  | cons step steps ih => exact ih (step_sound h step) (fun _ h' => (step_remembers h hbefore step h').1) hid

theorem start_remembers (config : Config) (id : String) : ¬ (start config).engine.Remembers id := by
  simp [Engine.Remembers, start, Engine.empty, Cache.empty]

/-- At any time, what the latest search found and what the caches have is about stored nodes; and whatever
removed a node, nothing is left of what was remembered of it, even if it was stored again at once. -/
theorem remembered_nodes_stored (config : Config) (steps : List Step) :
    let s := (start config).after steps
    (∀ id, s.engine.Remembers id → s.engine.store.contains id = true) ∧
    ∀ step, ∀ id ∈ s.removed step, ¬ (s.step step).engine.Remembers id := by
  intro s
  have hsound : s.Sound := after_sound (start_sound config) steps
  have hstored : ∀ id, s.engine.Remembers id → s.engine.store.contains id = true :=
    after_remembers (start_sound config) (fun id h => absurd h (start_remembers config id)) steps
  refine ⟨hstored, fun step id hid hremembered => ?_⟩
  exact (step_remembers hsound hstored step hremembered).2 hid

/-- Of two nodes that were found, one is removed and stored again by a batch. -/
example :
    let r : Reading := ⟨⟨⟨2024, 1, 1⟩, 43200, 0⟩, 0, "fresh"⟩
    let node (id : String) := Json.obj [("id", .str id), ("type", .str "file")]
    let item (operation : String) := Json.obj [("data", node "src/a"), ("operation", .str operation),
      ("type", .str "node")]
    let s := (start {}).after
      [.handle r (.ask 0 (.upsertNode (node "src/a"))), .handle r (.ask 1 (.upsertNode (node "src/b"))),
        .handle r (.ask 2 (.search "src")), .handle r (.ask 3 (.nodeInfo "src/a")),
        .handle r (.batch 4 [item "remove", item "add"])]
    s.engine.store.nodes.keys = ["src/a", "src/b"] ∧ s.engine.searchResults.toList = ["src/b"] ∧
      s.engine.derivedCache.entries.keys = [] := by decide +kernel

end Session
end CodeGraph
