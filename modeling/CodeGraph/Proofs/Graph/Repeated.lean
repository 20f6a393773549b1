import CodeGraph.Proofs.Graph.Merging
import CodeGraph.Proofs.Graph.Names
import CodeGraph.Proofs.Graph.Reordering
import CodeGraph.Proofs.Graph.Written
/-!
Updates that are made twice in a row. Where no metric is infinite or no number, the second one finds everything as
it is to be: it leaves the store as it is, history and marks included, and reports nothing.
-/
namespace CodeGraph

/-- An edge of finite numbers is found equal to itself. -/
theorem Edge.Readable.beq_self {e : Edge} (h : e.Readable) : (e == e) = true := by
  have hstrength : (e.details.strength == e.details.strength) = true := by
    cases hx : e.details.strength with
    | none => rfl
    | some x => exact float_beq_self (h.details.strength x hx)
  have hweight : (e.weight == e.weight) = true := float_beq_self h.finite
  cases e with
  | mk source target kind weight details =>
    cases details
    change instBEqEdge.beq _ _ = true
    simp only [instBEqEdge.beq, Bool.and_eq_true, beq_self_eq_true, true_and]
    refine ⟨hweight, ?_⟩
    change instBEqEdgeDetails.beq _ _ = true
    simp only [instBEqEdgeDetails.beq, Bool.and_eq_true, beq_self_eq_true, true_and, and_true]
    exact hstrength

namespace Store
variable {s : Store} {now later : Time}

/-- Every metric of every node is finite. -/
def Finite (s : Store) : Prop := ∀ {id n}, s.node? id = some n → n.metrics.Finite

/-- Finite numbers are found equal to themselves. -/
theorem Finite.beq_self (h : s.Finite) (x : String) : (s.node? x == s.node? x) = true := by
  cases hn : s.node? x with
  | none => rfl
  | some n => exact Node.beq_self_iff.mpr (h hn).beq_self

theorem Finite.nodeOr (h : s.Finite) (id kind : String) : ((s.node? id).getD (.ofId id kind)).metrics.Finite := by
  cases hn : s.node? id with
  | none => exact Metrics.default_finite
  | some n => exact h hn

/-- An edit that does nothing to the node that is stored does nothing. -/
theorem modify_same {id kind : String} {change : ChangeKind} {payload : Json} {f : Node → Node} {n : Node}
    (hn : s.node? id = some n) (hf : f n = n) (hsame : (s.node? id == s.node? id) = true) :
    s.modify now id kind change payload f = (s, false) := by
  have hnodes : s.nodes.insert id n = s.nodes := by
    apply Std.ExtTreeMap.ext_getElem?
    intro x
    rw [Std.ExtTreeMap.getElem?_insert]
    split
    · next hx => rw [← Std.compare_eq_iff_eq.mp hx, ← hn, node?]
    · rfl
  rw [hn] at hsame
  simp only [modify, hn, Option.getD_some, hf, hnodes, hsame, if_true]

theorem modify_fixed {id kind : String} {change : ChangeKind} {payload : Json} {f : Node → Node} {n : Node}
    (hn : s.node? id = some n) (hf : f n = n) (hfinite : n.metrics.Finite) :
    s.modify now id kind change payload f = (s, false) :=
  modify_same hn hf (hn ▸ Node.beq_self_iff.mpr hfinite.beq_self)

theorem modify_again (h : s.Finite) (id kind : String) (change : ChangeKind) (payload payload' : Json)
    (how : NodeEdit) :
    let t := (s.modify now id kind change payload how.apply).1
    t.modify later id kind change payload' how.apply = (t, false) := by
  intro t
  have hn : t.node? id = some (how.apply ((s.node? id).getD (.ofId id kind))) := by
    rw [node?_modify, if_pos rfl, edited]
  exact modify_fixed hn (how.apply_apply _) (how.apply_finite (h.nodeOr id kind))

theorem putEdge_again {e : Edge} (he : (e == e) = true) (payload payload' : Json) :
    let t := (s.putEdge now e payload).1
    t.putEdge later e payload' = (t, false) := by
  intro t
  have hsame : (t.edges[e.key]? == some e) = true := by
    simp only [t, putEdge]
    split
    · next hstored => exact hstored
    · rw [record_edges, Std.ExtTreeMap.getElem?_insert_self]
      exact he
  rw [putEdge, if_pos hsame]

end Store

namespace DependencyChange
open Store
variable {c d : DependencyChange} {s t : Store} {reported : StringSet} {now : Time} {payload : Json}

/-- A store in which a change finds everything as it is to be. -/
structure Settled (c : DependencyChange) (s : Store) : Prop where
  imports : s.importsOf c.path = c.wanted
  node : ∀ x, c.nodeAfter c.wanted x (s.node? x) = s.node? x
  edge : ∀ b, c.edgeAfter c.wanted b (s.edge? c.path b) = s.edge? c.path b

theorem Replaced.finite (h : c.Replaced s t reported) (hs : s.Finite) : t.Finite := by
  intro x n hn
  obtain ⟨m, rfl, hm⟩ := h.of_node hn
  rw [rewrite_metrics]
  rcases hm with hold | ⟨-, rfl⟩
  · exact hs hold
  · exact Metrics.default_finite

theorem rewrite_again (previous : StringSet) (x : String) (n : Node) :
    c.rewrite c.wanted x (c.rewrite previous x n) = c.rewrite previous x n := by
  have husers : ∀ ids, c.usersAfter c.wanted x (c.usersAfter previous x ids) = c.usersAfter previous x ids := by
    intro ids
    unfold usersAfter
    by_cases hwanted : x ∈ c.wanted
    · simp only [if_pos hwanted, NodeEdit.insert_insert]
    · simp only [if_neg hwanted]
  by_cases hx : x = c.path
  · simp only [rewrite, if_pos hx, setImports, husers]
  · simp only [rewrite, if_neg hx, husers]

/-- A change finds everything as it is to be where it has just been made. -/
theorem Replaced.settled (h : c.Replaced s t reported) : c.Settled t where
  imports := by
    have hfile : ∃ n, t.node? c.path = some (c.rewrite (s.importsOf c.path) c.path n) := by
      rw [h.node]
      cases s.node? c.path with
      | some n => exact ⟨n, nodeAfter_some n⟩
      | none => exact ⟨.forPath c.path, by rw [nodeAfter_none, if_pos (Or.inl rfl)]⟩
    obtain ⟨n, hn⟩ := hfile
    simp only [importsOf, hn, rewrite, if_true, setImports]
  node x := by
    rw [h.node]
    cases s.node? x with
    | some n => rw [nodeAfter_some, nodeAfter_some, rewrite_again]
    | none =>
      rw [nodeAfter_none]
      split
      · rw [nodeAfter_some, rewrite_again]
      · next hx => rw [nodeAfter_none, if_neg hx]
  edge b := by
    rw [h.edge, if_pos rfl]
    unfold edgeAfter
    by_cases hwanted : b ∈ c.wanted
    · simp only [if_pos hwanted, Option.getD_some]
    · simp only [if_neg hwanted]

/-- A change of another file's imports leaves a change settled. -/
theorem Settled.other (h : c.Settled s) (hd : d.Replaced s t reported) (hpath : c.path ≠ d.path) : c.Settled t where
  imports := (hd.importsOf_other hpath).trans h.imports
  node x := by rw [hd.node, ← nodeAfter_comm hpath, h.node]
  edge b := by rw [hd.edge, if_neg hpath, h.edge]

theorem Progress.modify_same {p : Progress} {id : String} {f : Node → Node} {n : Node} (hn : p.store.node? id = some n)
    (hf : f n = n) (hsame : (p.store.node? id == p.store.node? id) = true) : p.modify now id payload f = p := by
  simp only [Progress.modify, Store.modify_same hn hf hsame, Bool.false_eq_true, if_false]

namespace Settled

theorem file (h : c.Settled s) : ∃ n, s.node? c.path = some n ∧ setImports c.wanted n = n := by
  have hnode := h.node c.path
  cases hn : s.node? c.path with
  | none =>
    rw [hn, nodeAfter_none, if_pos (Or.inl rfl)] at hnode
    cases hnode
  | some n =>
    rw [hn, nodeAfter_some, rewrite_path] at hnode
    simp only [c.wanted_irrefl, if_false] at hnode
    exact ⟨n, rfl, Option.some.inj hnode⟩

theorem link_eq (h : c.Settled s) (hs : ∀ x, (s.node? x == s.node? x) = true) {target : String} (htarget : target ∈ c.wanted)
    (changed : StringSet) :
    link now c.path payload ⟨s, changed⟩ target = ⟨s, changed⟩ := by
  have hnode := h.node target
  have hedge := h.edge target
  cases hn : s.node? target with
  | none =>
    rw [hn, nodeAfter_none, if_pos (Or.inr htarget)] at hnode
    cases hnode
  | some n =>
    rw [hn, nodeAfter_some, rewrite_wanted htarget] at hnode
    have hmod : Progress.modify ⟨s, changed⟩ now target payload (addUser c.path) = ⟨s, changed⟩ :=
      Progress.modify_same hn (Option.some.inj hnode) (hs target)
    cases he : s.edge? c.path target with
    | none =>
      rw [he, edgeAfter, if_pos htarget] at hedge
      cases hedge
    | some e => simp only [link, hmod, he]

/-- A change that is settled leaves a store in which every number is one as it is. -/
theorem apply_same (h : c.Settled s) (hs : ∀ x, (s.node? x == s.node? x) = true) : c.apply now payload s = (s, ∅) := by
  obtain ⟨n, hn, hset⟩ := h.file
  have hmod : Progress.modify ⟨s, ∅⟩ now c.path payload (setImports c.wanted) = ⟨s, ∅⟩ :=
    Progress.modify_same hn hset (hs c.path)
  have hlink : c.wanted.toList.foldl (link now c.path payload) ⟨s, ∅⟩ = ⟨s, ∅⟩ := by
    refine List.foldlRecOn (motive := fun p : Progress => p = ⟨s, ∅⟩) c.wanted.toList (link now c.path payload) rfl ?_
    intro p hp target htarget
    rw [hp]
    exact h.link_eq hs (Std.ExtTreeSet.mem_toList.mp htarget) ∅
  have hdropped : (s.importsOf c.path).toList.filter (fun id => !c.wanted.contains id) = [] := by
    rw [List.filter_eq_nil_iff, h.imports]
    intro id hid
    simpa using hid
  have hdone : ((s.importsOf c.path).toList.filter fun id => !c.wanted.contains id).foldl (unlink now c.path payload)
      (c.wanted.toList.foldl (link now c.path payload)
        (Progress.modify ⟨s, ∅⟩ now c.path payload (setImports c.wanted))) = ⟨s, ∅⟩ := by
    rw [hmod, hlink, hdropped, List.foldl_nil]
  exact Prod.ext (congrArg Progress.store hdone) (congrArg Progress.changed hdone)

theorem apply_eq (h : c.Settled s) (hs : s.Finite) : c.apply now payload s = (s, ∅) := h.apply_same hs.beq_self

end Settled
end DependencyChange

namespace Store
variable {s s' : Store} {now : Time} {x : String}

theorem Finite.ensureNode (h : s.Finite) (id kind : String) (change : ChangeKind) :
    (s.ensureNode now id kind change).1.Finite := by
  unfold Store.ensureNode
  split
  · exact h
  · intro x m hm
    rw [node?_modify] at hm
    split at hm
    · cases hm
      exact h.nodeOr id kind
    · exact h hm

end Store

namespace ProjectUpdate
open Store DependencyChange
variable {now : Time} {projectId : Option String}

/-- Sources of different paths are all settled after their imports have been replaced, and what was settled
before and is none of them stays so. -/
theorem foldl_applySource_settled (sources : List (String × List String)) (hpaths : (sources.map (·.1)).Nodup)
    (p : Progress) :
    let q := sources.foldl (applySource now projectId) p
    (∀ c : DependencyChange, c.Settled p.store → c.path ∉ sources.map (·.1) → c.Settled q.store) ∧
    ∀ source ∈ sources, Settled ⟨source.1, source.2⟩ q.store := by
  induction sources generalizing p with
  | nil => exact ⟨fun c hc _ => hc, fun source hsource => nomatch hsource⟩
  | cons first rest ih =>
    rw [List.map_cons, List.nodup_cons] at hpaths
    obtain ⟨hkept, hsettled⟩ := ih hpaths.2 (applySource now projectId p first)
    have hfirst : Replaced ⟨first.1, first.2⟩ p.store (applySource now projectId p first).store _ :=
      apply_replaced ⟨first.1, first.2⟩ now _ p.store
    refine ⟨fun c hc hpath => ?_, fun source hsource => ?_⟩
    · rw [List.map_cons, List.mem_cons, not_or] at hpath
      exact hkept c (hc.other hfirst hpath.1) hpath.2
    · rcases List.mem_cons.mp hsource with rfl | hrest
      · exact hkept _ hfirst.settled hpaths.1
      · exact hsettled source hrest

theorem apply_finite (u : ProjectUpdate) {s : Store} (h : s.Finite) : (u.apply now s).1.Finite :=
  apply_induction (P := Store.Finite) h (fun _ path _ hs => hs.ensureNode path _ _) fun _ payload source _ hs =>
    (apply_replaced ⟨source.1, source.2⟩ now payload _).finite hs

/-- A store with all files of a report in which the imports of all its sources are settled. -/
structure Settled (u : ProjectUpdate) (s : Store) : Prop where
  files : ∀ path ∈ u.files, s.contains path = true
  sources : ∀ source ∈ u.dependencies.toList, DependencyChange.Settled ⟨source.1, source.2⟩ s

theorem apply_settled (u : ProjectUpdate) (s : Store) : u.Settled (u.apply now s).1 := by
  have hpaths : (u.dependencies.toList.map (·.1)).Nodup := by
    rw [List.Nodup, List.pairwise_map]
    simpa using u.dependencies.distinct_keys_toList
  simp only [apply]
  generalize hp : u.files.foldl (ensureFile now) ⟨s, ∅⟩ = ensured
  have hsource : ∀ p source, Revised now p.store (applySource now u.projectId p source).store :=
    fun p source => DependencyChange.apply_revised now _ ⟨source.1, source.2⟩ p.store
  have hlater : Revised now ensured.store (u.dependencies.toList.foldl (applySource now u.projectId) ensured).store :=
    .foldl Progress.store hsource _ _
  exact ⟨fun path hpath => hlater.contains (hp ▸ contains_foldl_ensureFile hpath _),
    (foldl_applySource_settled u.dependencies.toList hpaths ensured).2⟩

theorem Settled.apply_same {u : ProjectUpdate} {s : Store} (h : u.Settled s)
    (hs : ∀ x, (s.node? x == s.node? x) = true) : u.apply now s = (s, ∅) := by
  have hfiles : u.files.foldl (ensureFile now) ⟨s, ∅⟩ = ⟨s, ∅⟩ := by
    refine List.foldlRecOn (motive := fun p : Progress => p = ⟨s, ∅⟩) u.files (ensureFile now) rfl ?_
    intro p hp path hpath
    simp only [hp, ensureFile, Store.ensureNode, h.files path hpath, if_true, Bool.false_eq_true, if_false]
  have hsources : u.dependencies.toList.foldl (applySource now u.projectId) ⟨s, ∅⟩ = ⟨s, ∅⟩ := by
    refine List.foldlRecOn (motive := fun p : Progress => p = ⟨s, ∅⟩) u.dependencies.toList
      (applySource now u.projectId) rfl ?_
    intro p hp source hsource
    simp only [hp, applySource, (h.sources source hsource).apply_same hs]
    rfl
  simp only [ProjectUpdate.apply, hfiles, hsources]

theorem Settled.apply_eq {u : ProjectUpdate} {s : Store} (h : u.Settled s) (hs : s.Finite) :
    u.apply now s = (s, ∅) := h.apply_same hs.beq_self

end ProjectUpdate

namespace Store

theorem upsertNode_of_parse (s : Store) (now : Time) {data : Json} {p : NodePatch} (h : NodePatch.parse data = .ok p) :
    s.upsertNode now data = .ok (p.id, (s.modify now p.id p.kind .file data p.apply).1) := by
  rw [upsertNode, h]
  rfl

theorem upsertEdge_of_parse (s : Store) (now : Time) {data : Json} {e : Edge} (h : Edge.parse data = .ok e) :
    s.upsertEdge now data = .ok (e.key, (s.putEdge now e data).1) := by
  rw [upsertEdge, h]
  rfl

/-- Every update that is made a second time right after the first leaves the store as it is, history and marks
included, and reports no change. -/
theorem updates_repeated (s : Store) (h : s.Finite) (now later : Time) :
    (∀ data p, NodePatch.parse data = .ok p →
      let t := (s.modify now p.id p.kind .file data p.apply).1
      s.upsertNode now data = .ok (p.id, t) ∧ t.upsertNode later data = .ok (p.id, t) ∧
        t.modify later p.id p.kind .file data p.apply = (t, false)) ∧
    (∀ data e, data.Finite → Edge.parse data = .ok e →
      let t := (s.putEdge now e data).1
      s.upsertEdge now data = .ok (e.key, t) ∧ t.upsertEdge later data = .ok (e.key, t) ∧
        t.putEdge later e data = (t, false)) ∧
    (∀ (c : DependencyChange) payload, let t := (c.apply now payload s).1; c.apply later payload t = (t, ∅)) ∧
    (∀ (u : AnalysisUpdate) payload, let t := (u.apply now payload s).1; u.apply later payload t = (t, false)) ∧
    (∀ (r : AnalyzerResult) path payload,
      let t := (r.apply now path payload s).1; r.apply later path payload t = (t, false)) ∧
    ∀ u : ProjectUpdate, let t := (u.apply now s).1; u.apply later t = (t, ∅) := by
  refine ⟨fun data p hp => ?_, fun data e hdata he => ?_, fun c payload => ?_, fun u payload => ?_,
    fun r path payload => ?_,
    fun u => (u.apply_settled s).apply_eq (u.apply_finite h)⟩
  · intro t
    have hagain : t.modify later p.id p.kind .file data p.apply = (t, false) :=
      modify_again h p.id p.kind .file data data (.patch p)
    exact ⟨upsertNode_of_parse s now hp, by rw [upsertNode_of_parse t later hp, hagain], hagain⟩
  · intro t
    have hagain : t.putEdge later e data = (t, false) := putEdge_again (Edge.parse_readable hdata he).beq_self data data
    exact ⟨upsertEdge_of_parse s now he, by rw [upsertEdge_of_parse t later he, hagain], hagain⟩
  · have hreplaced := c.apply_replaced now payload s
    exact hreplaced.settled.apply_eq (hreplaced.finite h)
  · exact modify_again h u.path Node.fileKind .analysis payload payload (.update u)
  · exact modify_again h path Node.fileKind .file payload payload (.result r)

def noon : Time := ⟨⟨2024, 1, 1⟩, 43200, 0⟩

def night : Time := ⟨⟨2024, 1, 2⟩, 0, 0⟩

/-- A file with two imports. -/
def importing : Store := (DependencyChange.apply noon ⟨"main", ["db", "log"]⟩ .null (empty none)).1

/-- Asks for an edge in place of an import, with a strength. -/
def strengthening : Json :=
  .obj [("from", .str "main"), ("metadata", .obj [("strength", .num (.float 0.5))]), ("to", .str "db")]

/-- A report that drops an import, turns one around and creates a file. -/
def turnaround : ProjectUpdate :=
  { projectId := none, files := ["util"], rejectedFiles := [], directories := [],
    dependencies := .ofList [("db", ["main", "db"]), ("main", ["log"])], metrics := {}, insights := {},
    anomalies := [] }

theorem importing_repeated :
    importing.Finite ∧ strengthening.Finite ∧
    (∃ t, importing.upsertEdge noon strengthening = .ok (("main", "db"), t) ∧
      t.upsertEdge night strengthening = .ok (("main", "db"), t) ∧ t.history.length = 6) ∧
    (turnaround.apply noon importing).2.toList = ["db", "main", "util"] ∧
    turnaround.apply night (turnaround.apply noon importing).1 = ((turnaround.apply noon importing).1, ∅) := by
  have hfinite : importing.Finite :=
    (DependencyChange.apply_replaced ⟨"main", ["db", "log"]⟩ noon .null (empty none)).finite fun h => by
      simp [empty, node?] at h
  have hstrength : Json.Finite (.obj [("strength", .num (.float 0.5))]) :=
    .obj (List.forall_mem_singleton.mpr (.num (by decide)))
  have hdata : strengthening.Finite :=
    .obj (List.forall_mem_cons.mpr ⟨.str "main", List.forall_mem_cons.mpr ⟨hstrength,
      List.forall_mem_singleton.mpr (.str "db")⟩⟩)
  obtain ⟨-, hedges, -, -, -, hprojects⟩ := updates_repeated importing hfinite noon night
  have hparse : Edge.parse strengthening =
      .ok ⟨"main", "db", Edge.defaultKind, 1, { strength := some 0.5 }⟩ := rfl
  obtain ⟨hfirst, hsecond, -⟩ := hedges strengthening _ hdata hparse
  exact ⟨hfinite, hdata, ⟨_, hfirst, hsecond, by decide +kernel⟩, by decide +kernel, hprojects turnaround⟩

end Store
end CodeGraph
