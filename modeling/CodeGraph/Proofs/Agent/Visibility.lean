import CodeGraph.Agent.Context
import CodeGraph.Proofs.Graph.Action
/-!
What an agent sees of a graph depends on nothing that it may not see: graphs that look the same to a
request yield the same context.
-/
namespace CodeGraph

/-- None of the capabilities is the one of that name, in whatever case its letters stand. -/
def Lacks (capabilities : List String) (name : String) : Prop :=
  ∀ c ∈ capabilities, c.toList.map Char.toLower ≠ name.toList.map Char.toLower

instance (capabilities : List String) (name : String) : Decidable (Lacks capabilities name) :=
  inferInstanceAs (Decidable (∀ c ∈ capabilities, c.toList.map Char.toLower ≠ name.toList.map Char.toLower))

theorem lacks_iff (capabilities : List String) (name : String) :
    Lacks capabilities name ↔ hasCapability capabilities name = false := by
  simp only [Lacks, hasCapability, List.any_eq_false, beq_iff_eq, ne_eq]

namespace Node

def withoutVulnerabilities (n : Node) : Node := { n with analysis := { n.analysis with vulnerabilities := ∅ } }

def withoutSmells (n : Node) : Node := { n with analysis := { n.analysis with smells := ∅ } }

end Node

namespace Store

/-- Stores with the same edges whose nodes look the same. -/
structure SameView (view : Node → Node) (s s' : Store) : Prop where
  nodes : ∀ id, (s.node? id).map view = (s'.node? id).map view
  edges : s.edges = s'.edges

theorem redact_redact (r : ContextRequest) (n : Node) : redact r (redact r n) = redact r n := by
  simp only [redact]
  cases r.seesSecurity <;> cases r.seesSmells <;> rfl

theorem redact_withoutVulnerabilities {r : ContextRequest} (h : Lacks r.capabilities securityCapability) (n : Node) :
    redact r n.withoutVulnerabilities = redact r n := by
  have hblind : r.seesSecurity = false := (lacks_iff _ _).mp h
  simp only [redact, Node.withoutVulnerabilities, hblind, Bool.false_eq_true, if_false]

theorem redact_withoutSmells {r : ContextRequest} (h : Lacks r.capabilities refactoringCapability) (n : Node) :
    redact r n.withoutSmells = redact r n := by
  have hblind : r.seesSmells = false := (lacks_iff _ _).mp h
  simp only [redact, Node.withoutSmells, hblind, Bool.false_eq_true, if_false]

theorem suggestionsFor_redact (r : ContextRequest) (n : Node) :
    suggestionsFor r (redact r n) = suggestionsFor r n := by
  simp only [suggestionsFor, redact_redact]
  rfl

namespace SameView
variable {view : Node → Node} {s s' : Store} {r : ContextRequest}

/-- What shows less shows no difference where more shows none. -/
theorem coarser (h : s.SameView view s') {less : Node → Node} (hless : ∀ n, less (view n) = less n) :
    s.SameView less s' where
  nodes id := by
    have hmap := congrArg (Option.map less) (h.nodes id)
    simpa only [Option.map_map, Function.comp_def, hless] using hmap
  edges := h.edges

theorem contains (h : s.SameView view s') (id : String) : s.contains id = s'.contains id := by
  have hsome := congrArg Option.isSome (h.nodes id)
  simpa only [Option.isSome_map, ← contains_eq] using hsome

theorem edgesOf (h : s.SameView view s') (id : String) : s.edgesOf id = s'.edgesOf id := by
  simp only [Store.edgesOf, edgeList, h.edges]

theorem neighbours (h : s.SameView (redact r) s') (id : String) : s.neighbours id = s'.neighbours id := by
  have hcontains : s.contains = s'.contains := funext h.contains
  have hnode := h.nodes id
  simp only [Store.neighbours, h.edgesOf, hcontains]
  cases hn : s.node? id with
  | none =>
    cases hn' : s'.node? id with
    | none => rfl
    | some n' => simp [hn, hn'] at hnode
  | some n =>
    cases hn' : s'.node? id with
    | none => simp [hn, hn'] at hnode
    | some n' =>
      simp only [hn, hn', Option.map_some, Option.some.injEq] at hnode
      have hdependencies : n.dependencies = n'.dependencies := congrArg (·.dependencies) hnode
      have hrelationships : n.relationships = n'.relationships := congrArg (·.relationships) hnode
      simp only [hdependencies, hrelationships]

theorem reach (h : s.SameView (redact r) s') : s.reach r = s'.reach r := by
  have hcontains : s.contains = s'.contains := funext h.contains
  have hneighbours : s.neighbours = s'.neighbours := funext h.neighbours
  simp only [Store.reach, seeds, hcontains, hneighbours]

theorem edgesAmong (h : s.SameView view s') (ids : StringSet) : s.edgesAmong ids = s'.edgesAmong ids := by
  have hedges : s.edgesOf = s'.edgesOf := funext h.edgesOf
  simp only [Store.edgesAmong, hedges]

/-- What is gathered of stored nodes is the same if it is gathered of what may be seen of them. -/
theorem gathered (h : s.SameView view s') {β : Type} (g : String → Node → β) (hg : ∀ id n, g id (view n) = g id n)
    (ids : List String) :
    (ids.filterMap fun id => (s.node? id).map fun n => (id, n)).map (fun e => g e.1 e.2) =
      (ids.filterMap fun id => (s'.node? id).map fun n => (id, n)).map fun e => g e.1 e.2 := by
  have hseen : ∀ t : Store, (ids.filterMap fun id => (t.node? id).map fun n => (id, n)).map (fun e => g e.1 e.2) =
      ids.filterMap fun id => ((t.node? id).map view).map (g id) := by
    intro t
    simp only [List.map_filterMap, Option.map_map, Function.comp_def, hg]
  simp only [hseen, h.nodes]

theorem contextSlice (h : s.SameView (redact r) s') : s.contextSlice r = s'.contextSlice r := by
  have hnodes := h.gathered (fun _ n => redact r n) (fun _ n => redact_redact r n)
  have hmetrics := h.gathered (fun id n => (id, n.metrics)) fun _ _ => rfl
  have hsuggestions := h.gathered (fun _ n => suggestionsFor r n) fun _ n => suggestionsFor_redact r n
  simp only [Store.contextSlice, h.reach, h.edgesAmong, hnodes, hmetrics, List.flatMap_def, hsuggestions]

end SameView

/-- Whatever else a request may see and wherever it leads, without the capability for security its context does
not depend on vulnerabilities, and without that for refactoring it does not depend on smells. -/
theorem contextSlice_hides (r : ContextRequest) (s s' : Store) :
    (Lacks r.capabilities "security" → s.SameView Node.withoutVulnerabilities s' →
      s.contextSlice r = s'.contextSlice r) ∧
    (Lacks r.capabilities "refactoring" → s.SameView Node.withoutSmells s' →
      s.contextSlice r = s'.contextSlice r) := by
  constructor
  · intro hlacks h
    exact (h.coarser (redact_withoutVulnerabilities hlacks)).contextSlice
  · intro hlacks h
    exact (h.coarser (redact_withoutSmells hlacks)).contextSlice

/-- Two files with findings of both kinds, one importing the other. -/
def audited : Store :=
  let login : Node := { Node.forPath "login" with
    relationships := { imports := .ofList ["hash"] }
    analysis := { vulnerabilities := .ofList ["weak-hash"], smells := .ofList ["long-method"] } }
  let hash : Node := { Node.forPath "hash" with
    analysis := { vulnerabilities := .ofList ["md5"], suggestions := .ofList ["add tests"] } }
  { nodes := .ofList [("login", login), ("hash", hash)]
    edges := .ofList [(("login", "hash"), Edge.ofEnds "login" "hash" Edge.importKind)] }

/-- The store with its nodes as they look. -/
def viewed (view : Node → Node) (s : Store) : Store := { s with nodes := s.nodes.map fun _ n => view n }

theorem sameView_viewed (view : Node → Node) (hview : ∀ n, view (view n) = view n) (s : Store) :
    s.SameView view (s.viewed view) where
  nodes id := by
    simp only [viewed, node?, Std.ExtTreeMap.getElem?_map, Option.map_map, Function.comp_def, hview]
  edges := rfl

def reviewing : ContextRequest := { capabilities := ["Refactoring", "dependencies"], relevantFiles := ["login"] }

def auditing : ContextRequest := { capabilities := ["SECURITY"], requiredContext := ["login", "hash"] }

/-- Each of the two requests sees the findings of one kind, and neither those of the other. -/
theorem audited_hides :
    (Lacks reviewing.capabilities "security" ∧ audited.SameView Node.withoutVulnerabilities
        (audited.viewed Node.withoutVulnerabilities) ∧
      audited.contextSlice reviewing = (audited.viewed Node.withoutVulnerabilities).contextSlice reviewing ∧
      (audited.contextSlice reviewing).suggestions = ["Refactor long-method in login", "add tests"]) ∧
    (Lacks auditing.capabilities "refactoring" ∧ audited.SameView Node.withoutSmells
        (audited.viewed Node.withoutSmells) ∧
      audited.contextSlice auditing = (audited.viewed Node.withoutSmells).contextSlice auditing ∧
      (audited.contextSlice auditing).suggestions =
        ["Address md5 in hash", "Address weak-hash in login", "add tests"]) := by
  have hreviewing : Lacks reviewing.capabilities "security" := by decide
  have hauditing : Lacks auditing.capabilities "refactoring" := by decide
  have hpatched := sameView_viewed Node.withoutVulnerabilities (fun _ => rfl) audited
  have hcleaned := sameView_viewed Node.withoutSmells (fun _ => rfl) audited
  exact ⟨⟨hreviewing, hpatched, (contextSlice_hides reviewing _ _).1 hreviewing hpatched, by decide +kernel⟩,
    hauditing, hcleaned, (contextSlice_hides auditing _ _).2 hauditing hcleaned, by decide +kernel⟩

end Store
end CodeGraph
