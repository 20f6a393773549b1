import CodeGraph.Proofs.Graph.Links
import CodeGraph.Proofs.Graph.Parsing
import CodeGraph.Proofs.Graph.Update
/-!
Replacing the imports of a file brings the sets on both ends and the edges to what is wanted, and so they
agree in every graph that is made of such replacements, of removals and of updates that are about neither
imports nor edges.
-/
namespace CodeGraph

namespace DependencyChange
open Store
variable {now : Time} {path target : String} {payload : Json} {p : Progress}
  {listed users joined : String → String → Prop}

theorem link_links (h : p.store.Links listed users joined) : (link now path payload p target).store.Links listed
    (fun a b => users a b ∨ a = path ∧ b = target) (fun a b => joined a b ∨ a = path ∧ b = target) := by
  have hmod : (p.modify now target payload (addUser path)).store.Links listed
      (fun a b => users a b ∨ a = path ∧ b = target) joined := h.addUser
  simp only [link]
  split
  · next e he =>
    -- the edge is there already
    refine hmod.congr (fun a b => Iff.rfl) (fun a b => Iff.rfl) fun a b => or_iff_left_of_imp ?_
    rintro ⟨rfl, rfl⟩
    exact (hmod.joins _ _).mp ⟨e, he⟩
  · next hnone => exact hmod.putEdge hnone

theorem unlink_links (h : p.store.Links listed users joined) : (unlink now path payload p target).store.Links listed
    (fun a b => users a b ∧ ¬ (a = path ∧ b = target)) (fun a b => joined a b ∧ ¬ (a = path ∧ b = target)) := by
  have hmod : (if p.store.contains target then p.modify now target payload (dropUser path) else p).store.Links listed
      (fun a b => users a b ∧ ¬ (a = path ∧ b = target)) joined := by
    split
    · exact h.dropUser
    · next hnone =>
      refine h.congr (fun a b => Iff.rfl) (fun a b => and_iff_left_of_imp ?_) fun a b => Iff.rfl
      rintro hab ⟨rfl, rfl⟩
      obtain ⟨n, hn, -⟩ := (h.usedBy _ _).mpr hab
      rw [contains_eq, hn] at hnone
      exact hnone rfl
  simp only [unlink]
  split
  · next e he =>
    rw [if_pos (by rw [hmod.kind he]; rfl)]
    rcases Store.removeEdge_cases _ now path target with ⟨hnone, -⟩ | ⟨e', s', -, hr, -⟩
    · rw [hnone] at he
      cases he
    · rw [hr]
      exact hmod.removeEdge hr
  · next hnone =>
    refine hmod.congr (fun a b => Iff.rfl) (fun a b => Iff.rfl) fun a b => and_iff_left_of_imp ?_
    rintro hab ⟨rfl, rfl⟩
    obtain ⟨e, he⟩ := (hmod.joins _ _).mpr hab
    rw [hnone] at he
    cases he

theorem foldl_link_links (targets : List String) (h : p.store.Links listed users joined) :
    (targets.foldl (link now path payload) p).store.Links listed
      (fun a b => users a b ∨ a = path ∧ b ∈ targets) (fun a b => joined a b ∨ a = path ∧ b ∈ targets) := by
  induction targets generalizing p users joined with
  | nil => exact h.congr (fun a b => Iff.rfl) (fun a b => by simp) fun a b => by simp
  | cons t rest ih =>
    refine (ih (link_links h)).congr (fun a b => Iff.rfl) (fun a b => ?_) fun a b => ?_
    · rw [List.mem_cons, and_or_left, or_assoc]
    · rw [List.mem_cons, and_or_left, or_assoc]

theorem foldl_unlink_links (targets : List String) (h : p.store.Links listed users joined) :
    (targets.foldl (unlink now path payload) p).store.Links listed
      (fun a b => users a b ∧ ¬ (a = path ∧ b ∈ targets)) (fun a b => joined a b ∧ ¬ (a = path ∧ b ∈ targets)) := by
  induction targets generalizing p users joined with
  | nil => exact h.congr (fun a b => Iff.rfl) (fun a b => by simp) fun a b => by simp
  | cons t rest ih =>
    refine (ih (unlink_links h)).congr (fun a b => Iff.rfl) (fun a b => ?_) fun a b => ?_
    · rw [List.mem_cons, and_or_left, not_or, and_assoc]
    · rw [List.mem_cons, and_or_left, not_or, and_assoc]

/-- The three parts of a replacement: the file lists what is wanted, all of it is linked, and what is not
wanted any more is unlinked. -/
theorem replace_links {s : Store} {links : String → String → Prop} (c : DependencyChange)
    (h : s.Links links links links) {previous : StringSet} (hprevious : ∀ b, b ∈ previous ↔ links c.path b) :
    let links' := fun a b => if c.path = a then b ∈ c.wanted else links a b
    let set := (Progress.mk s ∅).modify now c.path payload (setImports c.wanted)
    let linked := c.wanted.toList.foldl (link now c.path payload) set
    let dropped := previous.toList.filter fun id => !c.wanted.contains id
    (dropped.foldl (unlink now c.path payload) linked).store.Links links' links' links' := by
  intro links' set linked dropped
  have hset : set.store.Links links' links links := h.setImports c.wanted
  have hlinked : linked.store.Links links' _ _ := foldl_link_links c.wanted.toList hset
  have hdropped : ∀ b, b ∈ dropped ↔ links c.path b ∧ b ∉ c.wanted := by
    intro b
    rw [List.mem_filter, Std.ExtTreeSet.mem_toList, hprevious, Bool.not_eq_true', ← Bool.not_eq_true,
      Std.ExtTreeSet.contains_iff_mem]
  have hfinal : ∀ a b, links' a b ↔
      (links a b ∨ a = c.path ∧ b ∈ c.wanted.toList) ∧ ¬ (a = c.path ∧ b ∈ dropped) := by
    intro a b
    rw [hdropped, Std.ExtTreeSet.mem_toList]
    by_cases ha : c.path = a
    · subst ha
      simp only [links', if_true, true_and]
      grind
    · simp only [links', if_neg ha, Ne.symm ha, false_and, or_false, not_false_eq_true, and_true]
  exact (foldl_unlink_links dropped hlinked).congr (fun a b => Iff.rfl) hfinal hfinal

/-- Replacing the imports of a file: they are what is wanted, and those of other files stay. -/
theorem apply_links {s : Store} {links : String → String → Prop} (c : DependencyChange)
    (h : s.Links links links links) :
    let links' := fun a b => if c.path = a then b ∈ c.wanted else links a b
    (c.apply now payload s).1.Links links' links' links' := by
  have himports := h.imports c.path
  unfold Imports at himports
  cases hn : s.node? c.path with
  | none =>
    simp only [apply, hn]
    exact c.replace_links h fun b => by simpa [hn] using himports b
  | some n =>
    simp only [apply, hn]
    exact c.replace_links h fun b => by simpa [hn] using himports b

theorem wanted_irrefl (c : DependencyChange) : c.path ∉ c.wanted := by
  simp [wanted, Std.ExtTreeSet.mem_ofList]

theorem apply_linked {s : Store} (c : DependencyChange) (h : s.Linked) : (c.apply now payload s).1.Linked := by
  obtain ⟨links, hlinks, hirrefl⟩ := h
  refine ⟨_, c.apply_links hlinks, fun a => ?_⟩
  split
  · next ha => exact ha ▸ c.wanted_irrefl
  · exact hirrefl a

end DependencyChange

/-- A payload with no value for a field; `null` is none. -/
def Json.Lacks (data : Json) (field : String) : Prop := (data.get? field).filter (!·.isNull) = none

theorem Payload.optional_lacking {α : Type} {members : List (String × Json)} {field : String}
    {read : Json → Except ValidationError α} (h : Json.Lacks (.obj members) field) :
    optional members field read = .ok none := by
  rw [optional, show Json.present? members field = none from h]

namespace NodePatch
variable {data : Json} {p : NodePatch}

/-- A payload that speaks of neither dependencies nor relationships asks for none. -/
theorem parse_lacking (h : parse data = .ok p) (hdependencies : data.Lacks "dependencies")
    (hrelationships : data.Lacks "relationships") : p.dependencies = none ∧ p.relationships = [] := by
  obtain ⟨members, rfl, hparts⟩ := parse_parts h
  have hnone := hparts.dependencies
  obtain ⟨sets, hsets, heq⟩ := hparts.relationships
  rw [Payload.optional_lacking hdependencies] at hnone
  rw [Payload.optional_lacking hrelationships] at hsets
  cases hsets
  exact ⟨(Except.ok.inj hnone).symm, heq⟩

end NodePatch

namespace Store
variable {s : Store} {now : Time} {id kind : String} {change : ChangeKind} {payload : Json} {f : Node → Node}

namespace Linked

theorem edit (h : s.Linked) (hr : ∀ n, (f n).relationships = n.relationships)
    (hd : ∀ n, (f n).dependencies = n.dependencies) : (s.modify now id kind change payload f).1.Linked := by
  obtain ⟨links, hlinks, hirrefl⟩ := h
  exact ⟨links, hlinks.edit hr hd, hirrefl⟩

theorem ensureNode (h : s.Linked) : (s.ensureNode now id kind change).1.Linked := by
  unfold Store.ensureNode
  split
  · exact h
  · exact h.edit (fun _ => rfl) fun _ => rfl

theorem remove (h : s.Linked) (hw : s.WellFormed) (id : String) : ((StoreAction.remove id).apply now s).Linked := by
  obtain ⟨links, hlinks, hirrefl⟩ := h
  rcases s.remove_cases now id with ⟨-, hsame⟩ | ⟨n, s', -, hr, hleft⟩
  · rw [hsame]
    exact ⟨links, hlinks, hirrefl⟩
  · rw [hleft]
    exact ⟨_, hlinks.removeNode hw hr, fun a ha => hirrefl a ha.1⟩

theorem project (h : s.Linked) (u : ProjectUpdate) : (u.apply now s).1.Linked :=
  ProjectUpdate.apply_induction h (fun _ _ _ hs => hs.ensureNode) fun _ _ _ _ hs => DependencyChange.apply_linked _ hs

end Linked
end Store

namespace GraphUpdate
variable {s : Store} {now : Time}

/-- Updates that say nothing of edges or of what a node imports but by replacing all of it. -/
def KeepsLinks : GraphUpdate → Prop
  | upsertNode data => data.Lacks "dependencies" ∧ data.Lacks "relationships"
  | upsertEdge _ | removeEdge _ _ | batchItem _ => False
  | removeNode _ | dependencies _ _ | analysis _ _ | project _ | result _ _ _ => True

theorem apply_linked (hw : s.WellFormed) (h : s.Linked) {u : GraphUpdate} (hu : u.KeepsLinks) :
    (u.apply now s).Linked := by
  cases u with
  | upsertNode data =>
    rw [apply_upsertNode]
    refine unlessRefused_plan h fun a ha => ?_
    obtain ⟨p, hp, ha⟩ := bind_ok_inv ha
    cases ha
    obtain ⟨hdependencies, hrelationships⟩ := NodePatch.parse_lacking hp hu.1 hu.2
    refine h.edit (fun n => ?_) fun n => ?_
    · simp only [NodeEdit.apply, NodePatch.apply, hrelationships, List.foldl_nil]
    · simp only [NodeEdit.apply, NodePatch.apply, hdependencies, Option.getD_none]
  | removeNode id =>
    rw [apply_removeNode]
    exact h.remove hw id
  | dependencies c payload => exact c.apply_linked h
  | analysis u payload => exact h.edit (fun _ => rfl) fun _ => rfl
  | project u => exact h.project u
  | result path r payload => exact h.edit (fun _ => rfl) fun _ => rfl
  | upsertEdge data => exact hu.elim
  | removeEdge source target => exact hu.elim
  | batchItem item => exact hu.elim

end GraphUpdate

namespace Store

theorem empty_linked (limit : Option Nat) : (empty limit).Linked := by
  refine ⟨fun _ _ => False, ?_, fun _ h => h⟩
  constructor <;> simp [Imports, UsedBy, Joins, node?, edge?, empty]

theorem updated_linked (limit : Option Nat) {updates : List (Time × GraphUpdate)}
    (h : ∀ u ∈ updates, u.2.KeepsLinks) : ((empty limit).updated updates).Linked := by
  refine (updated_induction (P := fun s => s.WellFormed ∧ s.Linked) ?_ ⟨WellFormed.empty limit, empty_linked limit⟩
    updates h).2
  intro now u s hu ⟨hw, hs⟩
  exact ⟨u.apply_wellFormed hw, GraphUpdate.apply_linked hw hs hu⟩

namespace Links
variable {s : Store} {links : String → String → Prop} {a b : String}

/-- Who imports and what is imported are stored: one lists the import, the other one its user. -/
theorem ends_stored (h : s.Links links links links) (hab : links a b) :
    s.contains a = true ∧ s.contains b = true := by
  obtain ⟨n, hn, -⟩ := (h.imports a b).mpr hab
  obtain ⟨m, hm, -⟩ := (h.usedBy a b).mpr hab
  rw [contains_eq, contains_eq, hn, hm]
  exact ⟨rfl, rfl⟩

theorem no_dangling (h : s.Links links links links) (hw : s.WellFormed) : s.danglingEdges = 0 := by
  rw [danglingEdges, List.length_eq_zero_iff, List.filter_eq_nil_iff]
  intro e he
  obtain ⟨hsource, htarget⟩ := h.ends_stored ((h.joins _ _).mp ⟨e, hw.mem_edgeList he⟩)
  simp [hsource, htarget]

end Links

/-- Whatever order imports are replaced in, nodes removed and other things written, the sets of the
importing node, the users of the imported one and the edges tell the same. -/
theorem imports_agree (limit : Option Nat) (updates : List (Time × GraphUpdate))
    (h : ∀ u ∈ updates, u.2.KeepsLinks) :
    let s := (empty limit).updated updates
    (∀ a b, (s.Imports a b ↔ s.contains a = true ∧ s.contains b = true ∧ s.UsedBy a b) ∧
      (s.Imports a b ↔ s.Joins a b)) ∧
    (∀ a b e, s.edge? a b = some e → e.key = (a, b) ∧ e.kind = Edge.importKind) ∧
    (∀ a n, s.node? a = some n → n.dependencies = n.relationships.imports ∧
      n.relationships.uses = n.relationships.imports ∧ a ∉ n.relationships.imports) ∧
    s.danglingEdges = 0 := by
  intro s
  have hw : s.WellFormed := updated_wellFormed limit updates
  obtain ⟨links, hlinks, hirrefl⟩ := updated_linked limit h
  refine ⟨fun a b => ⟨?_, ?_⟩, ?_, ?_, hlinks.no_dangling hw⟩
  · rw [hlinks.imports, hlinks.usedBy]
    exact ⟨fun hab => ⟨(hlinks.ends_stored hab).1, (hlinks.ends_stored hab).2, hab⟩, fun hab => hab.2.2⟩
  · rw [hlinks.imports, hlinks.joins]
  · exact fun a b e he => ⟨hw.edge_key he, hlinks.kind he⟩
  · intro a n hn
    obtain ⟨hdependencies, huses⟩ := hlinks.even hn
    exact ⟨hdependencies, huses, fun ha => hirrefl a ((hlinks.imports a a).mp ⟨n, hn, ha⟩)⟩

/-- A file is written, imports three others and itself, and then only two of them; one of these is
removed and imported again by a report on the project. -/
def rewiring : List (Time × GraphUpdate) :=
  let now : Time := ⟨⟨2024, 1, 1⟩, 43200, 0⟩
  [ (now, .upsertNode (.obj [("id", .str "main"), ("type", .str "file"), ("dependencies", .null)])),
    (now, .dependencies ⟨"main", ["log", "util", "db", "main"]⟩ .null),
    (now, .dependencies ⟨"main", ["log", "db"]⟩ .null),
    (now, .result "util" ⟨[(.lines, 12)], [], [], [], [], none⟩ .null),
    (now, .removeNode "db"),
    (now, .project
      { projectId := none, files := ["util"], rejectedFiles := [], directories := [],
        dependencies := .ofList [("util", ["db"])], metrics := {}, insights := {}, anomalies := [] }),
    (now, .analysis ⟨"db", ["singleton"], [], [], [], none, now, [], none⟩ .null)]

theorem rewiring_agrees :
    (∀ u ∈ rewiring, u.2.KeepsLinks) ∧
    (∀ a b, ((empty none).updated rewiring).Imports a b ↔ ((empty none).updated rewiring).Joins a b) ∧
    ((empty none).updated rewiring).edges.keys = [("main", "log"), ("util", "db")] := by
  have hkept : ∀ u ∈ rewiring, u.2.KeepsLinks := by
    simp only [rewiring, List.forall_mem_cons, List.not_mem_nil, false_imp_iff, implies_true, and_true]
    exact ⟨⟨rfl, rfl⟩, trivial, trivial, trivial, trivial, trivial, trivial⟩
  exact ⟨hkept, fun a b => ((imports_agree none rewiring hkept).1 a b).2, by decide +kernel⟩

end Store
end CodeGraph
