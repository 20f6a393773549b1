import Mathlib.Data.List.Induction
import Mathlib.Data.List.Nodup
import CodeGraph.Proofs.Graph.Links
import CodeGraph.Proofs.Graph.Merging
/-!
What some analysis updates leave of the node at their path. Findings are unions, contributors and commits are
appended once each, documentation and modification time are overwritten: but for these two, the order of the updates
shows only in the order of the appended.
-/
namespace CodeGraph

/-- A list that has grown at its end by what is named and was not in it, each once. -/
def Gathered {α : Type} (known : List α) (named : α → Prop) (all : List α) : Prop :=
  ∃ new, all = known ++ new ∧ new.Nodup ∧ ∀ x, x ∈ new ↔ named x ∧ x ∉ known

namespace Gathered
variable {α : Type} {known all all' : List α} {named named' : α → Prop}

theorem nothing (known : List α) : Gathered known (fun _ => False) known :=
  ⟨[], by simp, List.nodup_nil, by simp⟩

theorem congr (h : Gathered known named all) (hnamed : ∀ x, named x ↔ named' x) : Gathered known named' all := by
  obtain ⟨new, hall, hnew, hmem⟩ := h
  exact ⟨new, hall, hnew, fun x => by rw [hmem, hnamed]⟩

theorem mem (h : Gathered known named all) {x : α} : x ∈ all ↔ x ∈ known ∨ named x := by
  obtain ⟨new, rfl, -, hmem⟩ := h
  rw [List.mem_append, hmem]
  grind

theorem trans (h : Gathered known named all) (h' : Gathered all named' all') :
    Gathered known (fun x => named x ∨ named' x) all' := by
  have hall := @h.mem
  obtain ⟨new, rfl, hnew, hmem⟩ := h
  obtain ⟨later, rfl, hlater, hmem'⟩ := h'
  have hdisjoint : new.Disjoint later := fun x hx hx' => ((hmem' x).mp hx').2 (List.mem_append_right known hx)
  refine ⟨new ++ later, List.append_assoc .., hnew.append hlater hdisjoint, fun x => ?_⟩
  rw [List.mem_append, hmem, hmem', hall]
  grind

/-- What is gathered depends on what is named, but for its order. -/
theorem perm (h : Gathered known named all) (h' : Gathered known named all') : all.Perm all' := by
  obtain ⟨new, rfl, hnew, hmem⟩ := h
  obtain ⟨new', rfl, hnew', hmem'⟩ := h'
  refine List.Perm.append_left known ((List.perm_ext_iff_of_nodup hnew hnew').mpr fun x => ?_)
  rw [hmem, hmem']

theorem one [DecidableEq α] (known : List α) (x : α) :
    Gathered known (x = ·) (if x ∈ known then known else known ++ [x]) := by
  split
  · next hx =>
    refine ⟨[], by simp, List.nodup_nil, fun y => ?_⟩
    simp only [List.not_mem_nil, false_iff, not_and, not_not]
    rintro rfl
    exact hx
  · next hx =>
    refine ⟨[x], rfl, List.nodup_singleton x, fun y => ?_⟩
    rw [List.mem_singleton]
    constructor
    · rintro rfl
      exact ⟨rfl, hx⟩
    · exact fun hy => hy.1.symm

end Gathered

namespace Annotations

theorem withName_gathers (known : List String) (name : String) :
    Gathered known (Text.trimmed? name = some ·) (withName known name) := by
  unfold withName
  cases Text.trimmed? name with
  | none => exact (Gathered.nothing known).congr fun x => by simp
  | some n => exact (Gathered.one known n).congr fun x => by rw [Option.some.injEq]

theorem foldl_withName_gathers (known names : List String) :
    Gathered known (fun n => ∃ name ∈ names, Text.trimmed? name = some n) (names.foldl withName known) := by
  induction names generalizing known with
  | nil => exact (Gathered.nothing known).congr fun x => by simp
  | cons name rest ih =>
    refine ((withName_gathers known name).trans (ih _)).congr fun x => ?_
    simp only [List.mem_cons, exists_eq_or_imp]

end Annotations

theorem AnalysisUpdate.commitsAfter_gathers (u : AnalysisUpdate) (commits : List Commit) :
    Gathered commits (u.commit = some ·) (u.commitsAfter commits) := by
  unfold commitsAfter
  cases u.commit with
  | none => exact (Gathered.nothing commits).congr fun x => by simp
  | some c => exact (Gathered.one commits c).congr fun x => by rw [Option.some.injEq]

namespace Annotations

/-- What some updates leave of the annotations of a node. -/
structure Accumulates (a : Annotations) (updates : List AnalysisUpdate) (a' : Annotations) : Prop where
  patterns : ∀ x, x ∈ a'.patterns ↔ x ∈ a.patterns ∨ ∃ u ∈ updates, x ∈ u.patterns
  smells : ∀ x, x ∈ a'.smells ↔ x ∈ a.smells ∨ ∃ u ∈ updates, x ∈ u.smells
  vulnerabilities : ∀ x, x ∈ a'.vulnerabilities ↔ x ∈ a.vulnerabilities ∨ ∃ u ∈ updates, x ∈ u.vulnerabilities
  suggestions : ∀ x, x ∈ a'.suggestions ↔ x ∈ a.suggestions ∨ ∃ u ∈ updates, x ∈ u.suggestions
  /-- Of the last update that has any. -/
  documentation : a'.documentation = (updates.reverse.findSome? (·.documentation)).or a.documentation
  lastModified : a'.lastModified = (updates.getLast?.map (·.lastModified)).or a.lastModified
  contributors : Gathered a.contributors
    (fun n => ∃ u ∈ updates, ∃ name ∈ u.contributors, Text.trimmed? name = some n) a'.contributors
  commits : Gathered a.commits (fun c => ∃ u ∈ updates, u.commit = some c) a'.commits

namespace Accumulates
variable {a a' a'' : Annotations} {updates updates' : List AnalysisUpdate}

theorem nothing (a : Annotations) : a.Accumulates [] a where
  patterns := by simp
  smells := by simp
  vulnerabilities := by simp
  suggestions := by simp
  documentation := rfl
  lastModified := rfl
  contributors := (Gathered.nothing _).congr fun x => by simp
  commits := (Gathered.nothing _).congr fun x => by simp

/-- One more update. -/
theorem concat (h : a.Accumulates updates a') (u : AnalysisUpdate) :
    a.Accumulates (updates ++ [u]) (u.merge a') := by
  have hunion : ∀ {get : AnalysisUpdate → List String} {old new : StringSet},
      (∀ x, x ∈ new ↔ x ∈ old ∨ ∃ v ∈ updates, x ∈ get v) →
      ∀ x, x ∈ addAll new (get u) ↔ x ∈ old ∨ ∃ v ∈ updates ++ [u], x ∈ get v := by
    intro get old new hnew x
    rw [mem_addAll, hnew]
    simp only [List.mem_append, List.mem_singleton, or_and_right, exists_or, exists_eq_left, or_assoc]
  rw [AnalysisUpdate.merge_eq]
  exact
    { patterns := hunion h.patterns
      smells := hunion h.smells
      vulnerabilities := hunion h.vulnerabilities
      suggestions := hunion h.suggestions
      documentation := by
        rw [h.documentation, ← Option.or_assoc, List.reverse_append, List.reverse_singleton, List.singleton_append,
          List.findSome?_cons]
        cases u.documentation <;> rfl
      lastModified := by simp
      contributors := (h.contributors.trans (foldl_withName_gathers _ u.contributors)).congr fun x => by
        simp only [List.mem_append, List.mem_singleton, or_and_right, exists_or, exists_eq_left]
      commits := (h.commits.trans (u.commitsAfter_gathers _)).congr fun x => by
        simp only [List.mem_append, List.mem_singleton, or_and_right, exists_or, exists_eq_left] }

end Accumulates

/-- Annotations that differ at most in documentation and modification time and in the order of their lists. -/
structure SameButOrder (a a' : Annotations) : Prop where
  patterns : a'.patterns = a.patterns
  smells : a'.smells = a.smells
  vulnerabilities : a'.vulnerabilities = a.vulnerabilities
  suggestions : a'.suggestions = a.suggestions
  contributors : a'.contributors.Perm a.contributors
  commits : a'.commits.Perm a.commits

/-- The order of updates does not matter, but for what they overwrite. -/
theorem Accumulates.sameButOrder {a b b' : Annotations} {updates updates' : List AnalysisUpdate}
    (h : a.Accumulates updates b) (h' : a.Accumulates updates' b') (hperm : updates.Perm updates') :
    b.SameButOrder b' := by
  have hsome : ∀ P : AnalysisUpdate → Prop, (∃ u ∈ updates', P u) ↔ ∃ u ∈ updates, P u := fun P => by
    simp only [hperm.mem_iff]
  exact
    { patterns := Std.ExtTreeSet.ext_mem fun x => by rw [h'.patterns, h.patterns, hsome]
      smells := Std.ExtTreeSet.ext_mem fun x => by rw [h'.smells, h.smells, hsome]
      vulnerabilities := Std.ExtTreeSet.ext_mem fun x => by rw [h'.vulnerabilities, h.vulnerabilities, hsome]
      suggestions := Std.ExtTreeSet.ext_mem fun x => by rw [h'.suggestions, h.suggestions, hsome]
      contributors := (h'.contributors.congr fun x => hsome _).perm h.contributors
      commits := (h'.commits.congr fun x => hsome _).perm h.commits }

end Annotations

namespace Store
variable {s t t' : Store} {path : String}

/-- The analysis updates, each at its time and with the payload that it came in. -/
def annotated (s : Store) (updates : List (Time × AnalysisUpdate × Json)) : Store :=
  updates.foldl (fun s u => (u.2.1.apply u.1 u.2.2 s).1) s

/-- What some updates for a path leave of a store: they create the node if there is none, and write its annotations. -/
structure Annotated (s : Store) (path : String) (updates : List AnalysisUpdate) (t : Store) : Prop where
  edges : t.edges = s.edges
  other : ∀ x ≠ path, t.node? x = s.node? x
  stored : t.contains path = (s.contains path || !updates.isEmpty)
  node : ∃ a, t.nodeOr path Node.fileKind = { s.nodeOr path Node.fileKind with analysis := a } ∧
    (s.nodeOr path Node.fileKind).analysis.Accumulates updates a

theorem Annotated.nothing (s : Store) (path : String) : s.Annotated path [] s where
  edges := rfl
  other _ _ := rfl
  stored := by simp
  node := ⟨_, rfl, .nothing _⟩

theorem Annotated.concat {updates : List AnalysisUpdate} (h : s.Annotated path updates t) {u : AnalysisUpdate}
    (hu : u.path = path) (now : Time) (payload : Json) :
    s.Annotated path (updates ++ [u]) (u.apply now payload t).1 := by
  have hnode : ∀ x, (u.apply now payload t).1.node? x =
      if u.path = x then some { t.nodeOr u.path Node.fileKind with
        analysis := u.merge (t.nodeOr u.path Node.fileKind).analysis } else t.node? x :=
    t.node?_modify now u.path Node.fileKind .analysis payload _
  subst hu
  obtain ⟨a, hbefore, haccumulates⟩ := h.node
  constructor
  · exact (t.modify_edges ..).trans h.edges
  · intro x hx
    rw [hnode, if_neg (Ne.symm hx), h.other x hx]
  · rw [contains_eq, hnode, if_pos rfl]
    simp
  · refine ⟨u.merge a, ?_, haccumulates.concat u⟩
    rw [nodeOr, hnode, if_pos rfl, hbefore]
    rfl

theorem annotated_annotates (s : Store) {updates : List (Time × AnalysisUpdate × Json)}
    (hpath : ∀ u ∈ updates, u.2.1.path = path) :
    s.Annotated path (updates.map (·.2.1)) (s.annotated updates) := by
  induction updates using List.reverseRecOn with
  | nil => exact .nothing s path
  | append_singleton updates u ih =>
    have hbefore := ih fun v hv => hpath v (List.mem_append_left _ hv)
    rw [annotated, List.foldl_append, List.map_append]
    exact hbefore.concat (hpath u (List.mem_append_right _ List.mem_cons_self)) u.1 u.2.2

/-- Stores that differ at most in the annotations of one node, and in these at most in documentation and modification
time and in the order of the lists. -/
structure SameButOrder (path : String) (t t' : Store) : Prop where
  edges : t'.edges = t.edges
  other : ∀ x ≠ path, t'.node? x = t.node? x
  stored : t'.contains path = t.contains path
  node : ∃ a, t'.nodeOr path Node.fileKind = { t.nodeOr path Node.fileKind with analysis := a } ∧
    (t.nodeOr path Node.fileKind).analysis.SameButOrder a

/-- Analysis updates for one path may be made in any order, whatever the store: the findings are the same, and the
lists of contributors and commits have the same members, which are those that were stored, in their order, and after
them each new one once. Documentation and modification time are those of the last update that sets them. -/
theorem annotated_in_any_order (s : Store) {updates updates' : List (Time × AnalysisUpdate × Json)}
    (hpath : ∀ u ∈ updates, u.2.1.path = path) (hsame : (updates.map (·.2.1)).Perm (updates'.map (·.2.1))) :
    s.Annotated path (updates.map (·.2.1)) (s.annotated updates) ∧
    s.Annotated path (updates'.map (·.2.1)) (s.annotated updates') ∧
    SameButOrder path (s.annotated updates) (s.annotated updates') := by
  have hpath' : ∀ u ∈ updates', u.2.1.path = path := by
    intro u hu
    obtain ⟨v, hv, heq⟩ := List.mem_map.mp (hsame.mem_iff.mpr (List.mem_map_of_mem (f := (·.2.1)) hu))
    rw [← heq]
    exact hpath v hv
  have h := s.annotated_annotates hpath
  have h' := s.annotated_annotates hpath'
  obtain ⟨a, hnode, haccumulates⟩ := h.node
  obtain ⟨a', hnode', haccumulates'⟩ := h'.node
  refine ⟨h, h', ?_, ?_, ?_, ?_⟩
  · rw [h'.edges, h.edges]
  · intro x hx
    rw [h'.other x hx, h.other x hx]
  · rw [h'.stored, h.stored, hsame.isEmpty_eq]
  · refine ⟨a', ?_, ?_⟩
    · rw [hnode', hnode]
    · rw [hnode]
      exact haccumulates.sameButOrder haccumulates' hsame

/-- A file with a contributor who is stored twice and one with blanks around the name. -/
def signed : Store :=
  { nodes := .ofList [("main", { Node.forPath "main" with analysis := { contributors := ["bo", " ana ", "bo"] } })] }

/-- Two reports of one commit and one of a commit that lacks its time; the last that names documentation is not the
last of them. -/
def reviews : List (Time × AnalysisUpdate × Json) :=
  let now : Time := ⟨⟨2024, 1, 1⟩, 43200, 0⟩
  let update (documentation : Option String) (second : Nat) (contributors : List String) (commit : Commit) :=
    let modified : Time := ⟨⟨2024, 1, 1⟩, second, 0⟩
    (now, AnalysisUpdate.mk "main" [] ["todo"] [] [] documentation modified contributors commit, Json.null)
  [ update (some "Entry") 1 ["bo", " cy ", "ana"] { hash := some "f00", time := some now },
    update (some "Entry point") 2 ["di", "cy", " "] { hash := some "f00" },
    update none 3 ["di"] { hash := some "f00", time := some now } ]

theorem reviews_in_any_order :
    (∀ u ∈ reviews, u.2.1.path = "main") ∧
    SameButOrder "main" (signed.annotated reviews) (signed.annotated reviews.reverse) ∧
    ((signed.annotated reviews).node? "main").map (fun n => (n.analysis.contributors, n.analysis.documentation)) =
      some (["bo", " ana ", "bo", "cy", "ana", "di"], some "Entry point") ∧
    ((signed.annotated reviews.reverse).node? "main").map
        (fun n => (n.analysis.contributors, n.analysis.documentation)) =
      some (["bo", " ana ", "bo", "di", "cy", "ana"], some "Entry") := by
  have hpath : ∀ u ∈ reviews, u.2.1.path = "main" := by
    simp [reviews]
  have hsame : (reviews.map (·.2.1)).Perm (reviews.reverse.map (·.2.1)) := reviews.reverse_perm.symm.map _
  exact ⟨hpath, (annotated_in_any_order signed hpath hsame).2.2, by decide +kernel, by decide +kernel⟩

end Store
end CodeGraph
