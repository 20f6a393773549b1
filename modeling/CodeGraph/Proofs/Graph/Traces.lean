import CodeGraph.Proofs.Graph.Agreement
import CodeGraph.Proofs.Graph.HistoryLimit
import CodeGraph.Proofs.Graph.Repeated
import CodeGraph.Proofs.Graph.Timeless
/-!
The traces of a change: the entries that it adds to the history and the ids that it marks. It leaves both or none, and
it leaves some just if the store differs afterwards. For a change of several steps this means that no step undoes what
an earlier one did: where nothing differs at the end, nothing was to be done.
-/
namespace CodeGraph
open Store

namespace StoreAction
variable {s : Store} {now : Time}

theorem apply_historyLimit (now : Time) (a : StoreAction) (s : Store) :
    (a.apply now s).historyLimit = s.historyLimit := by
  cases a with
  | edit id kind change payload how =>
    simp only [apply, Store.modify]
    split <;> rfl
  | link edge payload =>
    simp only [apply, putEdge]
    split <;> rfl
  | unlink source target =>
    simp only [apply, removeEdge]
    cases s.edge? source target <;> rfl
  | remove id =>
    simp only [apply, removeNode]
    cases s.node? id <;> rfl

theorem record_history (h : s.historyLimit = none) (kind : ChangeKind) (path : String) (payload : Json) :
    (s.record now kind path payload).history = s.history ++ [⟨kind, path, payload, now⟩] := by
  rw [record, h, keepNewest]

/-- An action adds one entry if it marks an id, and none if it does not. -/
theorem apply_history (now : Time) (h : s.historyLimit = none) (a : StoreAction) :
    (∀ x, ¬ a.Marks s x) ∧ (a.apply now s).history = s.history ∨
      (∃ x, a.Marks s x) ∧ ∃ entry, (a.apply now s).history = s.history ++ [entry] := by
  cases a with
  | edit id kind change payload how =>
    cases hedit : s.editsNothing id kind how.apply with
    | true =>
      refine Or.inl ⟨fun x hx => Bool.false_ne_true (hx.1.symm.trans hedit), ?_⟩
      rw [apply, Store.modify, if_pos (by exact hedit)]
    | false =>
      refine Or.inr ⟨⟨id, hedit, rfl⟩, ?_⟩
      rw [apply, Store.modify, if_neg (by exact ne_true_of_eq_false hedit)]
      exact ⟨_, record_history h _ _ _⟩
  | link edge payload =>
    cases hstored : s.hasEdge edge with
    | true =>
      refine Or.inl ⟨fun x hx => Bool.false_ne_true (hx.1.symm.trans hstored), ?_⟩
      rw [apply, putEdge, if_pos (by exact hstored)]
    | false =>
      refine Or.inr ⟨⟨edge.source, hstored, Or.inl rfl⟩, ?_⟩
      rw [apply, putEdge, if_neg (by exact ne_true_of_eq_false hstored)]
      exact ⟨_, record_history h _ _ _⟩
  | unlink source target =>
    simp only [apply, removeEdge]
    cases he : s.edge? source target with
    | none => exact Or.inl ⟨fun x hx => by simp [Marks, he] at hx, rfl⟩
    | some e => exact Or.inr ⟨⟨source, ⟨e, he⟩, Or.inl rfl⟩, _, record_history h _ _ _⟩
  | remove id =>
    simp only [apply, removeNode]
    cases hn : s.node? id with
    | none => exact Or.inl ⟨fun x hx => by simp [Marks, hn] at hx, rfl⟩
    | some n => exact Or.inr ⟨⟨id, ⟨n, hn⟩, Or.inl rfl⟩, _, record_history h _ _ _⟩

end StoreAction

namespace Store
variable {s : Store} {now : Time} {x : String}

theorem mem_dirty_perform_cons (a : StoreAction) (as : List StoreAction) :
    x ∈ (s.swept.perform now (a :: as)).dirty ↔ a.Marks s x ∨ x ∈ ((a.apply now s).swept.perform now as).dirty := by
  rw [perform_cons, mem_dirty_perform_swept, a.apply_swept, a.mem_dirty_apply, a.marks_swept]
  simp [not_mem_swept]

/-- Without a limit the history grows at its end, and it grows just if something is marked. -/
theorem perform_history (now : Time) (h : s.historyLimit = none) (as : List StoreAction) :
    ∃ entries, (s.perform now as).history = s.history ++ entries ∧
      (entries ≠ [] ↔ ∃ x, x ∈ (s.swept.perform now as).dirty) := by
  induction as generalizing s with
  | nil => exact ⟨[], by simp, by simp [not_mem_swept]⟩
  | cons a as ih =>
    obtain ⟨entries, hentries, hiff⟩ := ih ((a.apply_historyLimit now s).trans h)
    have hmarked : (∃ x, x ∈ (s.swept.perform now (a :: as)).dirty) ↔ (∃ x, a.Marks s x) ∨ entries ≠ [] := by
      rw [hiff, ← exists_or]
      exact exists_congr fun x => mem_dirty_perform_cons a as
    rw [hmarked, perform_cons, hentries]
    rcases a.apply_history now h with ⟨hmarks, hsame⟩ | ⟨hmarks, entry, hgrown⟩
    · exact ⟨entries, by rw [hsame], by simp [hmarks]⟩
    · exact ⟨entry :: entries, by simp [hgrown], by simp [hmarks]⟩

/-- Actions that mark nothing leave a store that agrees with what was there. -/
theorem agrees_perform (hs : s.Agrees s) (as : List StoreAction) (h : ∀ x, x ∉ (s.swept.perform now as).dirty) :
    s.Agrees (s.perform now as) := by
  induction as generalizing s with
  | nil => exact hs
  | cons a as ih =>
    have h : ∀ x, ¬ a.Marks s x ∧ x ∉ ((a.apply now s).swept.perform now as).dirty := fun x =>
      not_or.mp fun hx => h x ((mem_dirty_perform_cons a as).mpr hx)
    have hfirst : s.Agrees (a.apply now s) := (agrees_apply_iff now a s).mpr ⟨hs, fun x => (h x).1⟩
    exact hfirst.trans (ih hfirst.symm.self fun x => (h x).2)

/-- A single action leaves no entry where nothing differs after it. -/
theorem history_of_agrees (hlimit : s.historyLimit = none) {as : List StoreAction} (hsize : as.length ≤ 1)
    (h : s.Agrees (s.perform now as)) : (s.perform now as).history = s.history := by
  cases as with
  | nil => rfl
  | cons a rest =>
    obtain rfl : rest = [] := List.length_eq_zero_iff.mp (Nat.le_zero.mp (Nat.le_of_succ_le_succ hsize))
    have hmarks := ((agrees_apply_iff now a s).mp h).2
    rcases a.apply_history now hlimit with ⟨-, hsame⟩ | ⟨⟨x, hx⟩, -⟩
    · exact hsame
    · exact absurd hx (hmarks x)

/-- What a change of the graph leaves behind, if it comes to some actions, and to none where nothing differs after it. -/
theorem traced {f : Store → Store} (hlimit : s.historyLimit = none)
    (hactions : ∃ as, ∀ t, s.SameItems t → f t = t.perform now as)
    (hsame : s.Agrees (f s) → (f s).history = s.history) :
    (∀ x, x ∈ (f s).dirty ↔ x ∈ s.dirty ∨ x ∈ (f s.swept).dirty) ∧
    ∃ entries, (f s).history = s.history ++ entries ∧ (entries ≠ [] ↔ ∃ x, x ∈ (f s.swept).dirty) ∧
      (¬ s.Agrees (f s) ↔ entries ≠ [] ∨ ¬ s.Agrees s) := by
  obtain ⟨as, has⟩ := hactions
  have hswept : f s.swept = s.swept.perform now as := has s.swept ⟨rfl, rfl⟩
  obtain ⟨entries, hentries, hiff⟩ := perform_history now hlimit as
  rw [hswept]
  rw [has s (.refl s)] at hsame ⊢
  refine ⟨mem_dirty_perform_swept s now as, entries, hentries, hiff, ?_⟩
  constructor
  · intro hdiffers
    by_cases hs : s.Agrees s
    · refine Or.inl (hiff.mpr ?_)
      by_contra hnone
      exact hdiffers (agrees_perform hs as fun x hx => hnone ⟨x, hx⟩)
    · exact Or.inr hs
  · rintro (hgrown | hs) hagrees
    · exact hgrown (List.append_right_eq_self.mp (hentries.symm.trans (hsame hagrees)))
    · exact hs hagrees.self

end Store

/-! ### Changes of several steps -/

theorem isSome_of_beq {α : Type} [BEq α] {o o' : Option α} (h : (o == o') = true) : o'.isSome = o.isSome := by
  cases o <;> cases o'
  · rfl
  · cases h
  · cases h
  · rfl

namespace DependencyChange
variable {c : DependencyChange} {s t : Store} {now : Time} {payload : Json}

/-- Whether a change is settled is seen from the nodes and from where there are edges. -/
theorem Settled.of_lookup (h : c.Settled t) (hnode : ∀ x, t.node? x = s.node? x)
    (hedge : ∀ a b, (t.edge? a b).isSome = (s.edge? a b).isSome) : c.Settled s where
  imports := by
    rw [← h.imports, importsOf, importsOf, hnode]
  node x := by
    rw [← hnode]
    exact h.node x
  edge b := by
    by_cases hwanted : b ∈ c.wanted
    · have hstands : (s.edge? c.path b).isSome = true := by
        have := h.edge b
        rw [edgeAfter, if_pos hwanted] at this
        rw [← hedge, ← this]
        rfl
      obtain ⟨e, he⟩ := Option.isSome_iff_exists.mp hstands
      rw [edgeAfter, if_pos hwanted, he]
      rfl
    · rw [edgeAfter, if_neg hwanted, if_neg hwanted]

/-- Where nothing differs after a change, it was settled before. -/
theorem apply_of_agrees (h : s.Agrees (c.apply now payload s).1) : c.apply now payload s = (s, ∅) := by
  have hreplaced := c.apply_replaced now payload s
  have hnode : ∀ x, (c.apply now payload s).1.node? x = s.node? x := fun x =>
    ((Node.beq_at_iff (by rw [hreplaced.node, metricsAt_nodeAfter])).mp (h.node x)).2
  have hsettled := hreplaced.settled.of_lookup hnode fun a b => isSome_of_beq (h.edge a b)
  exact hsettled.apply_same h.self.node

end DependencyChange

namespace ProjectUpdate
variable {u : ProjectUpdate} {s : Store} {now : Time}

/-- A report on the project leaves all metrics alone. -/
theorem metricsAt_apply (u : ProjectUpdate) (now : Time) (s : Store) (x : String) :
    Node.metricsAt ((u.apply now s).1.node? x) = Node.metricsAt (s.node? x) := by
  refine apply_induction (P := fun t => Node.metricsAt (t.node? x) = Node.metricsAt (s.node? x)) rfl ?_ ?_
  · intro t path _ ht
    rw [← ht, ensureNode]
    split
    · rfl
    · next hnew =>
      rw [node?_modify]
      split
      · next hx =>
        subst hx
        rw [contains_eq, Bool.not_eq_true, Option.isSome_eq_false_iff, Option.isNone_iff_eq_none] at hnew
        rw [edited, hnew]
        rfl
      · rfl
  · intro t payload source _ ht
    rw [← ht, (DependencyChange.apply_replaced ⟨source.1, source.2⟩ now payload t).node,
      DependencyChange.metricsAt_nodeAfter]

theorem apply_of_agrees (h : s.Agrees (u.apply now s).1) : u.apply now s = (s, ∅) := by
  have hnode : ∀ x, (u.apply now s).1.node? x = s.node? x := fun x =>
    ((Node.beq_at_iff (u.metricsAt_apply now s x)).mp (h.node x)).2
  have hedge : ∀ a b, ((u.apply now s).1.edge? a b).isSome = (s.edge? a b).isSome := fun a b =>
    isSome_of_beq (h.edge a b)
  have hdone : u.Settled (u.apply now s).1 := u.apply_settled s
  have hsettled : u.Settled s :=
    ⟨fun path hpath => by rw [contains_eq, ← hnode, ← contains_eq, hdone.files path hpath],
      fun source hsource => (hdone.sources source hsource).of_lookup hnode hedge⟩
  exact hsettled.apply_same h.self.node

end ProjectUpdate

/-! ### Every operation -/

namespace StoreOp
variable {op : StoreOp} {now : Time} {s : Store}

/-- The operations that an event or a request comes to. -/
def isChange : StoreOp → Bool
  | upsertNode _ | upsertEdge _ | ensureNode .. | putEdge .. | removeNode _ | removeEdge .. => true
  | dependencies .. | analysis .. | result .. | project _ | operation _ => true
  | _ => false

/-- But for the changes of several steps, an operation is one action, or is refused. -/
theorem run_cases (now : Time) (h : op.isChange = true) (s : Store) :
    (∃ as : List StoreAction, as.length ≤ 1 ∧ ∀ t, s.SameItems t → (op.run now t).2 = t.perform now as) ∨
      (∃ c payload, op = dependencies c payload) ∨ ∃ u, op = project u := by
  have hnothing : (∀ t, s.SameItems t → (op.run now t).2 = t) →
      ∃ as : List StoreAction, as.length ≤ 1 ∧ ∀ t, s.SameItems t → (op.run now t).2 = t.perform now as :=
    fun hrun => ⟨[], Nat.zero_le 1, hrun⟩
  have hone : ∀ a : StoreAction, (∀ t, s.SameItems t → (op.run now t).2 = a.apply now t) →
      ∃ as : List StoreAction, as.length ≤ 1 ∧ ∀ t, s.SameItems t → (op.run now t).2 = t.perform now as :=
    fun a hrun => ⟨[a], Nat.le_refl 1, hrun⟩
  cases op with
  | upsertNode data =>
    cases hp : NodePatch.parse data with
    | error fault =>
      refine Or.inl (hnothing fun t _ => ?_)
      rw [run, upsertNode_eq, hp]
      rfl
    | ok p =>
      refine Or.inl (hone (.edit p.id p.kind .file data (.patch p)) fun t _ => ?_)
      rw [run, upsertNode_eq, hp]
      rfl
  | upsertEdge data =>
    cases he : Edge.parse data with
    | error fault =>
      refine Or.inl (hnothing fun t _ => ?_)
      rw [run, upsertEdge_eq, he]
      rfl
    | ok e =>
      refine Or.inl (hone (.link e data) fun t _ => ?_)
      rw [run, upsertEdge_eq, he]
      rfl
  | ensureNode id kind change =>
    cases hid : s.contains id with
    | true =>
      refine Or.inl (hnothing fun t ht => ?_)
      rw [run, Prod.snd_swap, ensureNode_eq, if_pos ((ht.contains id).trans hid)]
    | false =>
      refine Or.inl (hone (.edit id kind change (.obj [("created", .str id)]) .create) fun t ht => ?_)
      rw [run, Prod.snd_swap, ensureNode_eq, if_neg (ne_true_of_eq_false ((ht.contains id).trans hid))]
  | putEdge edge payload => exact Or.inl (hone (.link edge payload) fun t _ => rfl)
  | removeNode id =>
    refine Or.inl (hone (.remove id) fun t _ => ?_)
    rw [run, StoreAction.apply]
    cases t.removeNode now id <;> rfl
  | removeEdge source target =>
    refine Or.inl (hone (.unlink source target) fun t _ => ?_)
    rw [run, StoreAction.apply]
    cases t.removeEdge now source target <;> rfl
  | dependencies c payload => exact Or.inr (Or.inl ⟨c, payload, rfl⟩)
  | analysis update payload =>
    exact Or.inl (hone (.edit update.path Node.fileKind .analysis payload (.update update)) fun t _ => rfl)
  | result found path payload =>
    exact Or.inl (hone (.edit path Node.fileKind .file payload (.result found)) fun t _ => rfl)
  | project update => exact Or.inr (Or.inr ⟨update, rfl⟩)
  | operation op =>
    cases hplan : op.plan s with
    | error fault =>
      refine Or.inl (hnothing fun t ht => ?_)
      rw [run, BatchOperation.apply_eq, BatchOperation.plan_congr ht.nodes ht.edges, hplan]
      rfl
    | ok a =>
      refine Or.inl (hone a fun t ht => ?_)
      rw [run, BatchOperation.apply_eq, BatchOperation.plan_congr ht.nodes ht.edges, hplan]
      rfl
  | _ => cases h

/-- Without a limit on the history, every change adds to its end and to the marks. What it marks is seen where nothing
is marked before. It adds some entry just if it marks some id, and just if some node or edge differs afterwards; in a
store with a number that is none something differs whatever is done. -/
theorem changes_traced (s : Store) (now : Time) (op : StoreOp) (hop : op.isChange = true)
    (hlimit : s.historyLimit = none) :
    let s' := (op.run now s).2
    let marked := (op.run now s.swept).2.dirty
    (∀ x, x ∈ s'.dirty ↔ x ∈ s.dirty ∨ x ∈ marked) ∧
    ∃ entries, s'.history = s.history ++ entries ∧ (entries ≠ [] ↔ ∃ x, x ∈ marked) ∧
      (¬ s.Agrees s' ↔ entries ≠ [] ∨ ¬ s.Agrees s) := by
  intro s' marked
  rcases op.run_cases now hop s with ⟨as, hsize, has⟩ | ⟨c, payload, rfl⟩ | ⟨u, rfl⟩
  · exact traced hlimit ⟨as, has⟩ fun h => by
      rw [has s (.refl s)] at h ⊢
      exact history_of_agrees hlimit hsize h
  · obtain ⟨as, -, has⟩ := DependencyChange.apply_performs now payload c s
    exact traced (f := fun t => (c.apply now payload t).1) hlimit ⟨as, has⟩ fun h => by
      rw [DependencyChange.apply_of_agrees h]
  · obtain ⟨as, -, has⟩ := ProjectUpdate.apply_performs now u s
    exact traced (f := fun t => (u.apply now t).1) hlimit ⟨as, has⟩ fun h => by
      rw [ProjectUpdate.apply_of_agrees h]

theorem turnaround_traced :
    let op := project turnaround
    let s' := (op.run night importing).2
    op.isChange = true ∧ importing.historyLimit = none ∧
    (∃ entries, s'.history = importing.history ++ entries ∧ entries ≠ []) ∧ ¬ importing.Agrees s' := by
  intro op s'
  have hlimit : importing.historyLimit = none := by decide +kernel
  obtain ⟨-, entries, hentries, hmarked, hdiffers⟩ := changes_traced importing night op rfl hlimit
  have hcreated : "util" ∈ (op.run night importing.swept).2.dirty := by decide +kernel
  have hgrown : entries ≠ [] := hmarked.mpr ⟨"util", hcreated⟩
  exact ⟨rfl, hlimit, ⟨entries, hentries, hgrown⟩, hdiffers.mpr (Or.inl hgrown)⟩

end StoreOp
end CodeGraph
