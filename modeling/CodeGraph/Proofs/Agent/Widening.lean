import CodeGraph.Proofs.Agent.Reach
/-!
Requests that ask for more see more: more capabilities, more names and what an agent has declared about itself only add
to a slice.
-/
namespace CodeGraph

/-- A request that asks for no more than another one. -/
structure ContextRequest.Within (r r' : ContextRequest) : Prop where
  capabilities : r.capabilities ⊆ r'.capabilities
  requiredContext : r.requiredContext ⊆ r'.requiredContext
  relevantFiles : r.relevantFiles ⊆ r'.relevantFiles

/-- A slice that tells no more than another one. -/
structure ContextSlice.Within (a b : ContextSlice) : Prop where
  nodes : ∀ n ∈ a.nodes, ∃ m ∈ b.nodes, m.id = n.id
  vulnerabilities : ∀ n ∈ a.nodes, ∀ m ∈ b.nodes, m.id = n.id →
    ∀ v ∈ n.analysis.vulnerabilities, v ∈ m.analysis.vulnerabilities
  smells : ∀ n ∈ a.nodes, ∀ m ∈ b.nodes, m.id = n.id → ∀ v ∈ n.analysis.smells, v ∈ m.analysis.smells
  relationships : a.relationships ⊆ b.relationships
  metrics : ∀ (id : String) (m : Metrics), a.metrics[id]? = some m → b.metrics[id]? = some m
  suggestions : a.suggestions ⊆ b.suggestions

theorem Lacks.mono {capabilities capabilities' : List String} {name : String} (h : capabilities ⊆ capabilities')
    (hlacks : Lacks capabilities' name) : Lacks capabilities name :=
  fun c hc => hlacks c (h hc)

theorem ContextRequest.within_merge (r : ContextRequest) (known : Option AgentState) : r.Within (r.merge known) := by
  cases known with
  | none => exact ⟨List.Subset.refl _, List.Subset.refl _, List.Subset.refl _⟩
  | some a => exact ⟨List.subset_append_left _ _, List.subset_append_left _ _, List.subset_append_left _ _⟩

namespace Node.Shows
variable {r r' : ContextRequest} {n n' stored : Node} {v : String}

theorem vulnerabilities_mono (h : n.Shows r stored) (h' : n'.Shows r' stored) (hr : r.Within r')
    (hv : v ∈ n.analysis.vulnerabilities) : v ∈ n'.analysis.vulnerabilities := by
  rw [h.vulnerabilities] at hv
  rw [h'.vulnerabilities]
  split at hv
  · exact absurd hv Std.ExtTreeSet.not_mem_empty
  · next hsees => rwa [if_neg fun hlacks => hsees (hlacks.mono hr.capabilities)]

theorem smells_mono (h : n.Shows r stored) (h' : n'.Shows r' stored) (hr : r.Within r')
    (hv : v ∈ n.analysis.smells) : v ∈ n'.analysis.smells := by
  rw [h.smells] at hv
  rw [h'.smells]
  split at hv
  · exact absurd hv Std.ExtTreeSet.not_mem_empty
  · next hsees => rwa [if_neg fun hlacks => hsees (hlacks.mono hr.capabilities)]

end Node.Shows

namespace Store
variable {s : Store} {r r' : ContextRequest} {id : String}

theorem Requested.mono (hr : r.Within r') (h : s.Requested r id) : s.Requested r' id :=
  ⟨h.1, h.2.imp (fun hid => hr.requiredContext hid) fun hid => hr.relevantFiles hid⟩

theorem Reaches.mono (hr : r.Within r') (h : s.Reaches r id) : s.Reaches r' id := by
  rcases h with hrequested | ⟨hsees, hid, a, ha, hstep⟩
  · exact Or.inl (hrequested.mono hr)
  · exact Or.inr ⟨fun hlacks => hsees (hlacks.imp (·.mono hr.capabilities) (·.mono hr.capabilities)), hid, a,
      ha.mono hr, hstep⟩

theorem suggestionsFor_mono (hr : r.Within r') (n : Node) : suggestionsFor r n ⊆ suggestionsFor r' n := by
  have h := redact_shows r n
  have h' := redact_shows r' n
  intro text htext
  simp only [suggestionsFor, List.mem_append, List.mem_map, Std.ExtTreeSet.mem_toList] at htext ⊢
  rcases htext with (hown | ⟨v, hv, heq⟩) | ⟨v, hv, heq⟩
  · exact Or.inl (Or.inl hown)
  · exact Or.inl (Or.inr ⟨v, h.vulnerabilities_mono h' hr hv, heq⟩)
  · exact Or.inr ⟨v, h.smells_mono h' hr hv, heq⟩

/-- Nodes of one id in two slices of a graph show the same stored node. -/
theorem WellFormed.shows_of_id_eq (h : s.WellFormed) {n m : Node} (hn : n ∈ (s.contextSlice r).nodes)
    (hm : m ∈ (s.contextSlice r').nodes) (hid : m.id = n.id) : ∃ stored, n.Shows r stored ∧ m.Shows r' stored := by
  obtain ⟨stored, hstored, hshows⟩ := h.shows_of_mem hn
  obtain ⟨stored', hstored', hshows'⟩ := h.shows_of_mem hm
  rw [hid, hstored] at hstored'
  exact ⟨stored, hshows, Option.some.inj hstored' ▸ hshows'⟩

theorem WellFormed.contextSlice_mono (h : s.WellFormed) (hr : r.Within r') :
    (s.contextSlice r).Within (s.contextSlice r') where
  nodes n hn := by
    obtain ⟨m, hreaches, hstored, rfl⟩ := h.mem_nodes.mp hn
    exact ⟨redact r' m, h.mem_nodes.mpr ⟨m, hreaches.mono hr, hstored, rfl⟩, rfl⟩
  vulnerabilities n hn m hm hid v hv := by
    obtain ⟨stored, hshows, hshows'⟩ := h.shows_of_id_eq hn hm hid
    exact hshows.vulnerabilities_mono hshows' hr hv
  smells n hn m hm hid v hv := by
    obtain ⟨stored, hshows, hshows'⟩ := h.shows_of_id_eq hn hm hid
    exact hshows.smells_mono hshows' hr hv
  relationships e he := by
    obtain ⟨hstored, hsource, htarget⟩ := h.mem_relationships.mp he
    exact h.mem_relationships.mpr ⟨hstored, hsource.mono hr, htarget.mono hr⟩
  metrics id m hm := by
    obtain ⟨hreaches, hstored⟩ := h.metrics_getElem?.mp hm
    exact h.metrics_getElem?.mpr ⟨hreaches.mono hr, hstored⟩
  suggestions text htext := by
    obtain ⟨id, n, hreaches, hstored, htext⟩ := h.mem_suggestions.mp htext
    exact h.mem_suggestions.mpr ⟨id, n, hreaches.mono hr, hstored, suggestionsFor_mono hr n htext⟩

/-- Nothing is hidden from a request that asks for more, and what an agent has declared only adds to what is asked. -/
theorem widened_hides_nothing {s : Store} (h : s.WellFormed) :
    (∀ r r', r.Within r' → (s.contextSlice r).Within (s.contextSlice r')) ∧
    ∀ (r : ContextRequest) (known : Option AgentState), (s.contextSlice r).Within (s.contextSlice (r.merge known)) :=
  ⟨fun _ _ hr => h.contextSlice_mono hr, fun r known => h.contextSlice_mono (r.within_merge known)⟩

/-- A file with findings of both kinds that imports another one. -/
def reviewed : List (Time × GraphUpdate) :=
  let now : Time := ⟨⟨2024, 1, 1⟩, 43200, 0⟩
  let findings := Json.obj [("smells", .arr [.str "long-method"]), ("vulnerabilities", .arr [.str "weak-hash"])]
  [(now, .upsertNode (.obj [("analysis", findings), ("id", .str "login"), ("type", .str "file")])),
    (now, .dependencies ⟨"login", ["hash"]⟩ .null)]

/-- Whoever may see smells and neighbours besides vulnerabilities sees more of all parts. -/
theorem reviewed_widened :
    let s := (empty none).updated reviewed
    let r : ContextRequest := { capabilities := ["security"], relevantFiles := ["login"] }
    let r' : ContextRequest :=
      { capabilities := ["Refactoring", "dependencies", "security"], relevantFiles := ["cache", "login"] }
    s.WellFormed ∧ r.Within r' ∧ (s.contextSlice r).Within (s.contextSlice r') ∧
    (s.contextSlice r).suggestions = ["Address weak-hash in login"] ∧
    (s.contextSlice r').suggestions = ["Address weak-hash in login", "Refactor long-method in login"] ∧
    (s.contextSlice r').relationships.map Edge.key = [("login", "hash")] := by
  intro s r r'
  have hw : s.WellFormed := updated_wellFormed none reviewed
  have hr : r.Within r' := ⟨by decide, by decide, by decide⟩
  exact ⟨hw, hr, (widened_hides_nothing hw).1 r r' hr, by decide +kernel, by decide +kernel, by decide +kernel⟩

end Store
end CodeGraph
