import CodeGraph.Proofs.Graph.Repeated
/-!
Writing what is stored and giving it back. Every stored node and every stored edge is accepted in its written form and
is found as it is, unless it stands under a name that cannot be asked for.
-/
namespace CodeGraph

theorem Node.fileKind_trimmed : Text.IsTrimmed fileKind := Text.trimmed?_eq_self_iff.mp rfl

theorem Node.ofId_readable (id : String) {kind : String} (h : Text.IsTrimmed kind) : (ofId id kind).Readable :=
  ⟨h, Metrics.default_settled, ⟨nofun, nofun⟩⟩

theorem Findings.read_timed {f : Findings} {j : Json} (h : read j = .ok f) :
    (∀ t ∈ f.lastModified, t.Valid) ∧ ∀ c ∈ f.commit, c.Timed := by
  obtain ⟨find, -, h⟩ := Record.read_finds h
  obtain ⟨_, commit, rfl, hcommit, h⟩ := h.of_seq
  obtain ⟨_, contributor, rfl, -, h⟩ := h.of_seq
  obtain ⟨_, contributors, rfl, -, h⟩ := h.of_seq
  obtain ⟨_, lastModified, rfl, hlast, h⟩ := h.of_seq
  obtain ⟨_, documentation, rfl, -, h⟩ := h.of_seq
  obtain ⟨_, suggestions, rfl, -, h⟩ := h.of_seq
  obtain ⟨_, vulnerabilities, rfl, -, h⟩ := h.of_seq
  obtain ⟨_, smells, rfl, -, h⟩ := h.of_seq
  obtain ⟨patterns, rfl, -⟩ := h.of_map
  refine ⟨fun t ht => time_of_defaulted hlast ht, fun c hc => ?_⟩
  rcases hcommit.of_defaulted with rfl | ⟨_, -, hread⟩
  · cases hc
  · exact Commit.read_timed (Reader.nullable_inv hread hc)

namespace AnalysisUpdate
variable {u : AnalysisUpdate}

/-- An update all of whose times are moments of the calendar. -/
structure Timed (u : AnalysisUpdate) : Prop where
  lastModified : u.lastModified.Valid
  commit : ∀ c ∈ u.commit, c.Timed

theorem merge_timed (h : u.Timed) {a : Annotations} (ha : a.Timed) : (u.merge a).Timed := by
  rw [merge_eq]
  constructor
  · intro t ht
    cases ht
    exact h.lastModified
  · intro c hc
    dsimp only [commitsAfter] at hc
    split at hc
    · next c' hc' =>
      split at hc
      · exact ha.commits c hc
      · rcases List.mem_append.mp hc with hold | hnew
        · exact ha.commits c hold
        · rw [List.mem_singleton.mp hnew]
          exact h.commit c' hc'
    · exact ha.commits c hc

theorem parse_timed {now : Time} (hnow : now.Valid) {data : Json} (h : parse now data = .ok u) : u.Timed := by
  obtain ⟨path, -, h⟩ := bind_ok_inv h
  split at h
  · cases h
  · next f hread =>
    cases h
    obtain ⟨hlast, hcommit⟩ := Findings.read_timed hread
    refine ⟨?_, hcommit⟩
    dsimp only
    cases hf : f.lastModified with
    | some t => exact hlast t hf
    | none =>
      cases hc : f.commit.bind (·.time) with
      | some t =>
        obtain ⟨c, hcommit', ht⟩ := Option.bind_eq_some_iff.mp hc
        exact hcommit c hcommit' t ht
      | none => exact hnow

end AnalysisUpdate

namespace NodeEdit

/-- What an edit brings into a node can be read back. -/
def Readable : NodeEdit → Prop
  | patch p => Text.IsTrimmed p.kind ∧ ∀ a ∈ p.analysis, a.Timed
  | update u => u.Timed
  | _ => True

theorem apply_readable {how : NodeEdit} (h : how.Readable) {n : Node} (hn : n.Readable) : (how.apply n).Readable := by
  obtain ⟨hkind, hmetrics, hanalysis⟩ := hn
  cases how with
  | patch p =>
    refine ⟨h.1, Metrics.setAll_settled hmetrics p.metrics, ?_⟩
    cases hp : p.analysis with
    | none => simpa only [apply, NodePatch.apply, hp, Option.getD_none] using hanalysis
    | some a => simpa only [apply, NodePatch.apply, hp, Option.getD_some] using h.2 a hp
  | update u => exact ⟨hkind, hmetrics, AnalysisUpdate.merge_timed h hanalysis⟩
  | result r =>
    exact ⟨hkind, Metrics.setAll_settled hmetrics r.metrics, ⟨hanalysis.lastModified, hanalysis.commits⟩⟩
  | _ => exact ⟨hkind, hmetrics, hanalysis⟩

end NodeEdit

namespace StoreAction

/-- What an action brings into a store can be read back. -/
def Readable : StoreAction → Prop
  | edit _ kind _ _ how => Text.IsTrimmed kind ∧ how.Readable
  | link e _ => e.Readable
  | unlink _ _ | remove _ => True

theorem Direct.readable {a : StoreAction} (h : a.Direct) (hpayload : ∀ j ∈ a.payload?, j.Finite) : a.Readable := by
  cases h with
  | upsertNode hp => exact ⟨NodePatch.parse_kind hp, NodePatch.parse_kind hp, NodePatch.parse_timed hp⟩
  | upsertEdge he => exact Edge.parse_readable (hpayload _ rfl) he
  | removeNode id => trivial
  | removeEdge source target => trivial

end StoreAction

namespace Store

/-- A store in which every node and every edge can be read back from what it is written as, apart from its names. -/
structure Readable (s : Store) : Prop where
  node : ∀ {id n}, s.node? id = some n → n.Readable
  edge : ∀ {a b e}, s.edge? a b = some e → e.Readable

namespace Readable
variable {s t : Store} {now : Time}

theorem empty (limit : Option Nat) : (Store.empty limit).Readable where
  node h := by simp [Store.empty, node?] at h
  edge h := by simp [Store.empty, edge?] at h

theorem apply (h : s.Readable) {a : StoreAction} (ha : a.Readable) : (a.apply now s).Readable := by
  constructor
  · intro x n hn
    rcases node?_apply hn with hold | ⟨kind, change, payload, how, rfl, rfl⟩ | ⟨id, m, -, hm, rfl⟩
    · exact h.node hold
    · have hbefore : ((s.node? x).getD (.ofId x kind)).Readable := by
        cases hx : s.node? x with
        | none => exact Node.ofId_readable x ha.1
        | some m => exact h.node hx
      exact NodeEdit.apply_readable ha.2 hbefore
    · obtain ⟨hkind, hmetrics, hanalysis⟩ := h.node hm
      exact ⟨hkind, hmetrics, hanalysis⟩
  · intro source target e he
    rcases edge?_apply he with hold | ⟨payload, rfl, -⟩
    · exact h.edge hold
    · exact ha

theorem edit (h : s.Readable) {how : NodeEdit} (hhow : how.Readable) (id : String) (change : ChangeKind)
    (payload : Json) : (s.modify now id Node.fileKind change payload how.apply).1.Readable :=
  h.apply (a := .edit id Node.fileKind change payload how) ⟨Node.fileKind_trimmed, hhow⟩

theorem ensureFile (h : s.Readable) (path : String) (change : ChangeKind) :
    (s.ensureNode now path Node.fileKind change).1.Readable := by
  have hcreate : NodeEdit.create.Readable := trivial
  unfold Store.ensureNode
  split
  · exact h
  · exact h.edit hcreate path change _

theorem replaced (h : s.Readable) {c : DependencyChange} (hc : c.Named) {reported : StringSet}
    (ht : c.Replaced s t reported) : t.Readable := by
  constructor
  · intro x n hn
    obtain ⟨m, rfl, hm⟩ := ht.of_node hn
    have hbefore : m.Readable := by
      rcases hm with hold | ⟨-, rfl⟩
      · exact h.node hold
      · exact Node.ofId_readable x Node.fileKind_trimmed
    obtain ⟨hkind, hmetrics, hanalysis⟩ := hbefore
    unfold DependencyChange.rewrite
    split <;> exact ⟨hkind, hmetrics, hanalysis⟩
  · intro a b e he
    rcases ht.of_edge he with hold | ⟨-, hb, rfl⟩
    · exact h.edge hold
    · exact Edge.ofEnds_readable hc.path (hc.dependencies b (DependencyChange.mem_of_wanted hb)) _

end Readable
end Store

theorem BatchOperation.parse_finite {item : Json} (hitem : item.Finite) {op : BatchOperation}
    (h : parse item = .ok op) : op.data.Finite := by
  unfold parse at h
  split at h
  · next hread =>
    cases h
    obtain ⟨find, hparts, h⟩ := Record.read_finds hread
    obtain ⟨_, data, rfl, hdata, h⟩ := h.of_seq
    obtain ⟨_, action, rfl, -, h⟩ := h.of_seq
    obtain ⟨target, rfl, -⟩ := h.of_map
    rcases hdata.of_defaulted with rfl | ⟨j, hfield, hj⟩
    · exact .null
    · cases hj
      exact hitem.part (hparts hfield)
  · cases h

namespace GraphUpdate
variable {s : Store} {now : Time} {u : GraphUpdate}

/-- Updates as they are read: numbers are finite, an event and a report stand for what was parsed, and the clock shows
moments of the calendar. -/
def Parsed : GraphUpdate → Prop
  | upsertNode data | upsertEdge data | batchItem data => data.Finite
  | dependencies c payload => DependencyChange.parse payload = .ok c
  | analysis u payload => ∃ now : Time, now.Valid ∧ AnalysisUpdate.parse now payload = .ok u
  | project u => ∃ now root payload, u = ProjectUpdate.parse now root payload
  | removeNode _ | removeEdge _ _ | result _ _ _ => True

theorem Parsed.finite (h : u.Parsed) {data : Json} (hdata : u.Hands data) : data.Finite := by
  cases u with
  | upsertNode payload => exact hdata ▸ h
  | upsertEdge payload => exact hdata ▸ h
  | batchItem item =>
    obtain ⟨op, hop, rfl⟩ := hdata
    exact BatchOperation.parse_finite h hop
  | _ => exact hdata ▸ .null

theorem apply_readable (h : s.Readable) (hu : u.Parsed) : (u.apply now s).Readable := by
  cases u with
  | dependencies c payload => exact h.replaced (DependencyChange.parse_named hu) (c.apply_replaced now payload s)
  | analysis u payload =>
    obtain ⟨clock, hclock, hparse⟩ := hu
    have hedit : (NodeEdit.update u).Readable := AnalysisUpdate.parse_timed hclock hparse
    exact h.edit hedit u.path .analysis payload
  | project u =>
    obtain ⟨read, root, payload, rfl⟩ := hu
    have hnamed : (ProjectUpdate.parse read root payload).Named := ProjectUpdate.parse_named read root payload
    exact ProjectUpdate.apply_induction h (fun _ path _ hs => hs.ensureFile path _)
      fun s' payload source hsource hs => hs.replaced (hnamed.dependencies source hsource)
        (DependencyChange.apply_replaced ⟨source.1, source.2⟩ now payload s')
  | result path r payload =>
    have hedit : (NodeEdit.result r).Readable := trivial
    exact h.edit hedit path .file payload
  | _ =>
    -- An action that is asked for as such takes over a payload of the update, which is finite.
    refine planned_apply h rfl fun data a hdata ha => h.apply (ha.1.readable fun j hj => ?_)
    rw [ha.2 j hj]
    exact hu.finite hdata

end GraphUpdate

namespace Store
variable {s : Store} {now : Time}

theorem upsertNode_written (h : s.Readable) {n : Node} (hn : s.node? n.id = some n) (hid : Text.IsTrimmed n.id) :
    s.upsertNode now n.write = .ok (n.id, s) := by
  have hreadable : n.Readable := h.node hn
  have hsame : s.modify now n.patch.id n.patch.kind .file n.write n.patch.apply = (s, false) :=
    modify_fixed hn (Node.patch_apply hreadable) hreadable.metrics.finite
  rw [upsertNode_of_parse s now (Node.parse_write hreadable hid), hsame]
  rfl

theorem upsertEdge_written (h : s.Readable) {e : Edge} (he : s.edge? e.source e.target = some e)
    (hsource : Text.IsTrimmed e.source) (htarget : Text.IsTrimmed e.target) :
    s.upsertEdge now e.write = .ok (e.key, s) := by
  have hreadable : e.Readable := h.edge he
  have hsame : (s.edges[e.key]? == some e) = true := by
    have hstored : s.edges[e.key]? = some e := he
    rw [hstored]
    exact hreadable.beq_self
  rw [upsertEdge_of_parse s now (Edge.parse_write hreadable hsource htarget), putEdge, if_pos hsame]

/-- A node of no name is refused in its written form. -/
theorem upsertNode_unnamed {n : Node} (hid : n.id = "") :
    s.upsertNode now n.write = .error (.missingField "node" "id") := by
  have hparse : NodePatch.parse n.write = .error (.missingField "node" "id") := by
    cases n
    cases hid
    rfl
  rw [upsertNode, hparse]
  rfl

/-- Whatever updates were made, a node that stands under an id without blanks around it is accepted in its written form
and leaves the store as it is, history and marks included, unless the id is empty; then it is refused. An edge between
ids without blanks around them is always accepted and leaves the store as it is. -/
theorem written_given_back (limit : Option Nat) (updates : List (Time × GraphUpdate))
    (h : ∀ u ∈ updates, u.2.Parsed) (now : Time) :
    let s := (empty limit).updated updates
    (∀ id n, s.node? id = some n → Text.trim id = id → s.upsertNode now n.write =
      if id = "" then .error (.missingField "node" "id") else .ok (id, s)) ∧
    ∀ a b e, s.edge? a b = some e → Text.trim a = a → Text.trim b = b →
      s.upsertEdge now e.write = .ok ((a, b), s) := by
  intro s
  have hw : s.WellFormed := updated_wellFormed limit updates
  have hs : s.Readable := updated_induction (P := Readable) (Q := GraphUpdate.Parsed)
    (fun _ _ _ hu hs => GraphUpdate.apply_readable hs hu) (.empty limit) updates h
  constructor
  · intro id n hn htrim
    obtain rfl : n.id = id := hw.node_id hn
    split
    · next hid => exact upsertNode_unnamed hid
    · next hid => exact upsertNode_written hs hn (Text.isTrimmed_iff.mpr ⟨hid, htrim⟩)
  · intro a b e he ha hb
    obtain ⟨rfl, rfl⟩ := Prod.mk.inj (hw.edge_key he)
    have hreadable : e.Readable := hs.edge he
    exact upsertEdge_written hs he (Text.isTrimmed_iff.mpr ⟨hreadable.source, ha⟩)
      (Text.isTrimmed_iff.mpr ⟨hreadable.target, hb⟩)

/-- A leap second of the calendar. -/
def leapSecond : Time := ⟨⟨2016, 12, 31⟩, 86399, 1500000000⟩

/-- Blanks around an id and a metric out of its range, a finding that is made at a leap second, and an edge with
details. -/
def sundry : List (Time × GraphUpdate) :=
  [ (noon, .upsertNode (.obj [("id", .str " a "), ("metrics", .obj [("coverage", .nat 7)]), ("type", .str "file")])),
    (noon, .analysis ⟨"a", [], ["long"], [], [], none, leapSecond, [], none⟩
      (.obj [("path", .str " a "), ("smells", .arr [.str "long"])])),
    (noon, .upsertEdge (.obj [("from", .str "a"), ("metadata", .obj [("lineNumber", .nat 3),
      ("strength", .num (.float 0.5))]), ("to", .str "b")])) ]

theorem sundry_given_back :
    (∀ u ∈ sundry, u.2.Parsed) ∧ Text.trim "a" = "a" ∧ Text.trim "b" = "b" ∧
    (∃ n, ((empty none).updated sundry).node? "a" = some n ∧ n.analysis.lastModified = some leapSecond ∧
      ((empty none).updated sundry).upsertNode night n.write = .ok ("a", (empty none).updated sundry)) ∧
    ∃ e, ((empty none).updated sundry).edge? "a" "b" = some e ∧
      ((empty none).updated sundry).upsertEdge night e.write = .ok (("a", "b"), (empty none).updated sundry) := by
  have hread : ∀ u ∈ sundry, u.2.Parsed := by
    have hleap : leapSecond.Valid := ⟨by decide, by decide, by decide, by decide⟩
    have hcoverage : (Json.obj [("coverage", .nat 7)]).Finite := .obj (List.forall_mem_singleton.mpr (.num (by decide)))
    have hdetails : (Json.obj [("lineNumber", .nat 3), ("strength", .num (.float 0.5))]).Finite :=
      .obj (List.forall_mem_cons.mpr ⟨.num (by decide), List.forall_mem_singleton.mpr (.num (by decide))⟩)
    simp only [sundry, List.forall_mem_cons, List.not_mem_nil, false_imp_iff, implies_true, and_true]
    refine ⟨.obj ?_, ⟨leapSecond, hleap, rfl⟩, .obj ?_⟩
    · simpa using ⟨.str " a ", hcoverage, .str "file"⟩
    · simpa using ⟨.str "a", hdetails, .str "b"⟩
  have htrim : Text.trim "a" = "a" ∧ Text.trim "b" = "b" := by decide
  obtain ⟨hnodes, hedges⟩ := written_given_back none sundry hread night
  obtain ⟨n, hn⟩ : ∃ n, ((empty none).updated sundry).node? "a" = some n := ⟨_, rfl⟩
  obtain ⟨e, he⟩ : ∃ e, ((empty none).updated sundry).edge? "a" "b" = some e := ⟨_, rfl⟩
  have htime : (((empty none).updated sundry).node? "a").bind (·.analysis.lastModified) = some leapSecond := by
    decide +kernel
  rw [hn, Option.bind_some] at htime
  exact ⟨hread, htrim.1, htrim.2, ⟨n, hn, htime, hnodes "a" n hn htrim.1⟩, e, he, hedges "a" "b" e he htrim.1 htrim.2⟩

/-- An analyzer's answer that says nothing, about a file of no path. -/
def unnamed : List (Time × GraphUpdate) := [(noon, .result "" ⟨[], [], [], [], [], none⟩ (.obj []))]

theorem unnamed_refused :
    AnalyzerResult.parse "" (.obj []) = .ok ⟨[], [], [], [], [], none⟩ ∧
    ∃ n, ((empty none).updated unnamed).node? "" = some n ∧ Text.trim "" = "" ∧
      ((empty none).updated unnamed).upsertNode night n.write = .error (.missingField "node" "id") := by
  refine ⟨rfl, _, rfl, by decide, rfl⟩

end Store
end CodeGraph
