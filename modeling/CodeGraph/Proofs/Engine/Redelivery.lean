import CodeGraph.Proofs.Engine.Finite
/-!
An analysis update that is delivered once more. It finds all that it brings already there, but for the modification
time: a payload that gives none takes it from the clock, and the clock has moved on.
-/
namespace CodeGraph

namespace AnalysisUpdate
variable {now : Time} {data : Json} {u : AnalysisUpdate}

/-- The modification time that a payload gives: that of the findings, or else that of their commit. -/
def date? (data : Json) : Option Time :=
  match Findings.read ((data.get? "analysis").getD data) with
  | .ok f => f.lastModified.or (f.commit.bind (·.time))
  | .error _ => none

/-- The same update, made at another time. -/
def redated (u : AnalysisUpdate) (date : Time) : AnalysisUpdate := { u with lastModified := date }

theorem parse_date (h : parse now data = .ok u) : u.lastModified = (date? data).getD now := by
  obtain ⟨path, -, h⟩ := bind_ok_inv h
  simp only [date?]
  split at h
  · cases h
  · next f hread =>
    cases h
    rw [hread]

/-- Whether a payload is accepted does not depend on the clock, and neither does anything but its date. -/
theorem parse_later (h : parse now data = .ok u) (later : Time) :
    parse later data = .ok (u.redated ((date? data).getD later)) := by
  obtain ⟨path, hpath, h⟩ := bind_ok_inv h
  simp only [parse, hpath, date?]
  split at h
  · cases h
  · next f hread =>
    cases h
    rw [hread]
    rfl

@[simp] theorem redated_path (u : AnalysisUpdate) (date : Time) : (u.redated date).path = u.path := rfl

@[simp] theorem redated_self (u : AnalysisUpdate) : u.redated u.lastModified = u := rfl

theorem redated_merge (u : AnalysisUpdate) (date : Time) (a : Annotations) :
    (u.redated date).merge a = { u.merge a with lastModified := some date } := by
  rw [merge_eq, merge_eq]
  rfl

/-- Where an update was merged, it brings nothing but another date. -/
theorem redated_merge_merge (u : AnalysisUpdate) (date : Time) (a : Annotations) :
    (u.redated date).merge (u.merge a) = { u.merge a with lastModified := some date } := by
  rw [redated_merge, merge_merge]

theorem merge_lastModified (u : AnalysisUpdate) (a : Annotations) : (u.merge a).lastModified = some u.lastModified := by
  rw [merge_eq]

end AnalysisUpdate

/-- The node as modified at a time. -/
def Node.modifiedAt (n : Node) (date : Time) : Node :=
  { n with analysis := { n.analysis with lastModified := some date } }

namespace Engine

/-- The engine after an analysis update was delivered. -/
def receive (r : Reading) (e : Engine) (payload : Json) : Engine :=
  (e.handle r (.inbound InboundEvent.analysisUpdated.name payload)).1.1

theorem receive_store {r : Reading} {e : Engine} {payload : Json} {u : AnalysisUpdate}
    (h : AnalysisUpdate.parse r.now payload = .ok u) :
    (e.receive r payload).store = (u.apply r.now payload e.store).1.takeDirty.2 := by
  have hevent : InboundEvent.ofName? InboundEvent.analysisUpdated.name = some .analysisUpdated := by decide
  simp only [receive, handle_store, dispatch, inbound, hevent, analysisUpdated, h]

/-- The node that an update leaves. -/
def received (e : Engine) (u : AnalysisUpdate) : Node :=
  let n := e.store.nodeOr u.path Node.fileKind
  { n with analysis := u.merge n.analysis }

variable {r : Reading} {e : Engine} {payload : Json} {u : AnalysisUpdate}

theorem receive_node? (h : AnalysisUpdate.parse r.now payload = .ok u) (x : String) :
    (e.receive r payload).store.node? x = if u.path = x then some (e.received u) else e.store.node? x := by
  rw [receive_store h]
  exact e.store.node?_modify r.now u.path Node.fileKind .analysis payload _ x

/-- What is received again leaves the node as it was, but for its date. -/
theorem received_redated (h : AnalysisUpdate.parse r.now payload = .ok u) (date : Time) :
    (e.receive r payload).received (u.redated date) = (e.received u).modifiedAt date := by
  have hnode : (e.receive r payload).store.nodeOr u.path Node.fileKind = e.received u := by
    rw [Store.nodeOr, receive_node? h, if_pos rfl, Option.getD_some]
  calc (e.receive r payload).received (u.redated date)
      = { e.received u with analysis := (u.redated date).merge (e.received u).analysis } := by
        rw [received, AnalysisUpdate.redated_path, hnode]
    _ = (e.received u).modifiedAt date := by
        simp only [Node.modifiedAt, received, AnalysisUpdate.redated_merge_merge]

/-- Where an update was received, the same one does nothing. -/
theorem apply_received (h : AnalysisUpdate.parse r.now payload = .ok u) (hfinite : (e.receive r payload).store.Finite)
    (later : Time) (payload' : Json) :
    u.apply later payload' (e.receive r payload).store = ((e.receive r payload).store, false) := by
  have hnode : (e.receive r payload).store.node? u.path = some (e.received u) := by
    rw [receive_node? h, if_pos rfl]
  refine Store.modify_fixed hnode ?_ (hfinite hnode)
  simp only [received, AnalysisUpdate.merge_merge]

variable {r' : Reading} {date : Time}

theorem receive_again_node? (h : AnalysisUpdate.parse r.now payload = .ok u)
    (hagain : AnalysisUpdate.parse r'.now payload = .ok (u.redated date)) (x : String) :
    ((e.receive r payload).receive r' payload).store.node? x =
      if u.path = x then some ((e.received u).modifiedAt date) else (e.receive r payload).store.node? x := by
  rw [receive_node? hagain, received_redated h, AnalysisUpdate.redated_path]

/-- The node is modified again exactly if the update has another date. -/
theorem receive_again_iff (h : AnalysisUpdate.parse r.now payload = .ok u)
    (hagain : AnalysisUpdate.parse r'.now payload = .ok (u.redated date))
    (hfinite : (e.receive r payload).store.Finite) :
    let once := e.receive r payload
    let twice := once.receive r' payload
    twice.store.nodes = once.store.nodes ∧ twice.store.edges = once.store.edges ∧
      twice.store.history = once.store.history ↔ date = u.lastModified := by
  intro once twice
  constructor
  · rintro ⟨hnodes, -, -⟩
    have hnode : twice.store.node? u.path = once.store.node? u.path := congrArg (·[u.path]?) hnodes
    rw [receive_again_node? h hagain, receive_node? h, if_pos rfl, if_pos rfl, Option.some.injEq] at hnode
    have hdates : some date = (e.received u).analysis.lastModified := congrArg (·.analysis.lastModified) hnode
    exact Option.some.inj (hdates.trans (u.merge_lastModified _))
  · rintro rfl
    have hstore : twice.store = once.store.takeDirty.2 := by
      rw [receive_store hagain, AnalysisUpdate.redated_self, apply_received h hfinite]
    rw [hstore]
    exact ⟨rfl, rfl, rfl⟩

end Engine

namespace Session
open Engine

/-- An analysis update that is delivered again changes nothing but the modification time of its node; and it leaves
nodes, edges and history as they are exactly if its payload gives that time, unless the clock stands still. -/
theorem redelivered_iff (config : Config) (steps : List Step) (r r' : Reading) {payload : Json} {u : AnalysisUpdate}
    (h : AnalysisUpdate.parse r.now payload = .ok u) :
    let once := ((start config).after steps).engine.receive r payload
    let twice := once.receive r' payload
    (∃ n, once.store.node? u.path = some n ∧
      twice.store.node? u.path = some (n.modifiedAt ((AnalysisUpdate.date? payload).getD r'.now))) ∧
    (∀ x ≠ u.path, twice.store.node? x = once.store.node? x) ∧
    (twice.store.nodes = once.store.nodes ∧ twice.store.edges = once.store.edges ∧
        twice.store.history = once.store.history ↔
      (AnalysisUpdate.date? payload).isSome = true ∨ r'.now = r.now) := by
  intro once twice
  have hfinite : once.store.Finite := by
    have hrun := @after_finite config (steps ++ [.handle r (.inbound InboundEvent.analysisUpdated.name payload)])
    rwa [after_concat] at hrun
  have hagain := AnalysisUpdate.parse_later h r'.now
  have hnode := receive_again_node? (e := ((start config).after steps).engine) h hagain
  refine ⟨⟨_, ?_, (hnode u.path).trans (if_pos rfl)⟩, fun x hx => (hnode x).trans (if_neg (Ne.symm hx)), ?_⟩
  · rw [receive_node? h, if_pos rfl]
  · refine (receive_again_iff h hagain hfinite).trans ?_
    rw [AnalysisUpdate.parse_date h]
    cases AnalysisUpdate.date? payload <;> simp

def noonReading : Reading := ⟨⟨⟨2024, 1, 1⟩, 43200, 0⟩, 0, "fresh"⟩

def nightReading : Reading := ⟨⟨⟨2024, 1, 2⟩, 0, 0⟩, 5, "other"⟩

/-- Findings that give no time of their own, but come with a commit that has one. -/
def committed : Json :=
  .obj [("analysis", .obj [("commit", .obj [("author", .str "bo"), ("timestamp", .str "2024-01-01T00:00:00Z")]),
    ("smells", .arr [.str "todo"])]), ("path", .str " a ")]

/-- Findings without a time. -/
def undated : Json := .obj [("path", .str "a"), ("smells", .arr [.str "todo"])]

theorem committed_redelivered :
    ∃ u, AnalysisUpdate.parse noonReading.now committed = .ok u ∧ u.path = "a" ∧
      let once := (start {}).engine.receive noonReading committed
      let twice := once.receive nightReading committed
      once.store.history.length = 1 ∧ twice.store.history = once.store.history := by
  obtain ⟨u, hu, hpath⟩ : ∃ u, AnalysisUpdate.parse noonReading.now committed = .ok u ∧ u.path = "a" := ⟨_, rfl, rfl⟩
  have hdate : (AnalysisUpdate.date? committed).isSome = true := by decide +kernel
  obtain ⟨-, -, hsame⟩ := redelivered_iff {} [] noonReading nightReading hu
  exact ⟨u, hu, hpath, by decide +kernel, (hsame.mpr (Or.inl hdate)).2.2⟩

/-- Delivered again at a later time, findings without a time are a change. -/
theorem undated_changes :
    ¬ ∀ (config : Config) (steps : List Step) (r r' : Reading) (payload : Json) (u : AnalysisUpdate),
      AnalysisUpdate.parse r.now payload = .ok u → r.now.instant < r'.now.instant →
      let once := ((start config).after steps).engine.receive r payload
      let twice := once.receive r' payload
      twice.store.nodes = once.store.nodes ∧ twice.store.edges = once.store.edges ∧
        twice.store.history = once.store.history := by
  intro h
  have hhistory := (h {} [] noonReading nightReading undated _ rfl (by decide)).2.2
  have hlength := congrArg List.length hhistory
  exact absurd hlength (by decide +kernel)

end Session
end CodeGraph
