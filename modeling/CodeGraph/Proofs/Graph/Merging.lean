import CodeGraph.Proofs.Graph.Comparison
import CodeGraph.Proofs.Number.Range
/-!
Edits of a node made twice. What an edit overwrites it overwrites with the same again, and what it adds is known
the second time; so every edit of a node does nothing where it has just been made.
-/
namespace CodeGraph

section Overwriting
variable {β ι κ α : Type} {get : β → κ → α} {put : β → ι → β} {key : ι → κ} {value : ι → α}

/-- A record of cells: what is put lands in the cell of its key and in no other, and the cells are all there is. -/
structure Cells (get : β → κ → α) (put : β → ι → β) (key : ι → κ) (value : ι → α) : Prop where
  self : ∀ b i, get (put b i) (key i) = value i
  other : ∀ b i k, k ≠ key i → get (put b i) k = get b k
  ext : ∀ b b', (∀ k, get b k = get b' k) → b = b'

namespace Cells

/-- After some puts a cell holds what it held before, or the same whatever it held before. -/
theorem get_foldl [DecidableEq κ] (h : Cells get put key value) (is : List ι) (k : κ) :
    (∀ b, get (is.foldl put b) k = get b k) ∨ ∃ a, ∀ b, get (is.foldl put b) k = a := by
  induction is with
  | nil => exact Or.inl fun _ => rfl
  | cons i rest ih =>
    rcases ih with hkept | ⟨a, ha⟩
    · by_cases hk : k = key i
      · exact Or.inr ⟨value i, fun b => by rw [List.foldl_cons, hkept, hk, h.self]⟩
      · exact Or.inl fun b => by rw [List.foldl_cons, hkept, h.other b i k hk]
    · exact Or.inr ⟨a, fun b => ha (put b i)⟩

theorem foldl_twice [DecidableEq κ] (h : Cells get put key value) (is : List ι) (b : β) :
    is.foldl put (is.foldl put b) = is.foldl put b := by
  refine h.ext _ _ fun k => ?_
  rcases h.get_foldl is k with hkept | ⟨a, ha⟩
  · exact hkept _
  · rw [ha, ha]

end Cells
end Overwriting

namespace Metrics

theorem ext_get {m m' : Metrics} (h : ∀ k, m.get k = m'.get k) : m = m' := by
  cases m
  cases m'
  simp only [Metrics.mk.injEq]
  exact ⟨h .complexity, h .lines, h .coverage, h .maintainability, h .cognitiveComplexity, h .cyclomaticComplexity,
    h .halsteadVolume, h .halsteadDifficulty, h .halsteadEffort⟩

theorem cells : Cells get (fun m v => m.set v.1 v.2) Prod.fst fun v : Metric × Float => v.1.clamp v.2 where
  self m v := get_put_self m v.1 _
  other m _ _ hk := get_put_of_ne m _ hk
  ext _ _ := ext_get

theorem setAll_setAll (m : Metrics) (values : List (Metric × Float)) :
    (m.setAll values).setAll values = m.setAll values :=
  cells.foldl_twice values m

theorem setAll_finite {m : Metrics} (h : m.Finite) (values : List (Metric × Float)) : (m.setAll values).Finite :=
  setAll_keeps (P := fun _ x => x.isFinite = true) (fun k x => (clamp_range k x).1) h values

end Metrics

namespace Relationships

theorem get_put_of_ne (r : Relationships) {k l : Relation} (ids : StringSet) (h : l ≠ k) :
    (r.put ids k).get l = r.get l := by
  cases k <;> cases l <;> first | rfl | exact absurd rfl h

theorem ext_get {r r' : Relationships} (h : ∀ k, r.get k = r'.get k) : r = r' := by
  cases r
  cases r'
  simp only [Relationships.mk.injEq]
  exact ⟨h .imports, h .exports, h .inherits, h .implements, h .uses, h .usedBy⟩

theorem cells : Cells get (fun r s => r.put s.2 s.1) Prod.fst fun s : Relation × StringSet => s.2 where
  self r s := get_put_self r s.1 s.2
  other r s _ hk := get_put_of_ne r s.2 hk
  ext _ _ := ext_get

end Relationships

theorem mem_addAll {set : StringSet} {names : List String} {x : String} :
    x ∈ addAll set names ↔ x ∈ set ∨ x ∈ names := by
  rw [addAll, Std.ExtTreeSet.mem_insertMany_list, List.contains_iff_mem]

theorem addAll_addAll (set : StringSet) (names : List String) : addAll (addAll set names) names = addAll set names := by
  apply Std.ExtTreeSet.ext_mem
  intro x
  rw [mem_addAll, mem_addAll, or_assoc, or_self]

namespace Annotations

/-- The contributors after one more is named. -/
def withName (known : List String) (name : String) : List String :=
  match Text.trimmed? name with
  | none => known
  | some n => if n ∈ known then known else known ++ [n]

theorem addContributor_eq (a : Annotations) (name : String) :
    a.addContributor name = { a with contributors := withName a.contributors name } := by
  unfold addContributor withName
  cases Text.trimmed? name with
  | none => rfl
  | some n =>
    simp only
    split <;> rfl

theorem foldl_addContributor_eq (a : Annotations) (names : List String) :
    names.foldl addContributor a = { a with contributors := names.foldl withName a.contributors } := by
  induction names generalizing a with
  | nil => rfl
  | cons name rest ih => rw [List.foldl_cons, ih, addContributor_eq, List.foldl_cons]

/-- A name that would add nothing to those that are known: a blank one, or one of these. -/
def Known (known : List String) (name : String) : Prop := ∀ n, Text.trimmed? name = some n → n ∈ known

theorem withName_of_known {known : List String} {name : String} (h : Known known name) :
    withName known name = known := by
  unfold withName
  split
  · rfl
  · next n hn => rw [if_pos (h n hn)]

theorem mem_withName {known : List String} {name n : String} :
    n ∈ withName known name ↔ n ∈ known ∨ Text.trimmed? name = some n := by
  unfold withName
  cases Text.trimmed? name with
  | none => simp
  | some m =>
    simp only [Option.some.injEq]
    split <;> grind

theorem mem_foldl_withName {known names : List String} {n : String} :
    n ∈ names.foldl withName known ↔ n ∈ known ∨ ∃ name ∈ names, Text.trimmed? name = some n := by
  induction names generalizing known with
  | nil => simp
  | cons name rest ih =>
    rw [List.foldl_cons, ih, mem_withName, or_assoc]
    simp only [List.mem_cons, exists_eq_or_imp]

theorem foldl_withName_twice (known names : List String) :
    names.foldl withName (names.foldl withName known) = names.foldl withName known := by
  have hknown : ∀ name ∈ names, Known (names.foldl withName known) name := fun name hname n hn =>
    mem_foldl_withName.mpr (Or.inr ⟨name, hname, hn⟩)
  generalize names.foldl withName known = all at hknown
  induction names with
  | nil => rfl
  | cons name rest ih =>
    rw [List.foldl_cons, withName_of_known (hknown name List.mem_cons_self)]
    exact ih fun other hother => hknown other (List.mem_cons_of_mem name hother)

end Annotations

namespace AnalysisUpdate
variable (u : AnalysisUpdate) (a : Annotations)

/-- The commits after that of the update, if it has one. -/
def commitsAfter (commits : List Commit) : List Commit :=
  match u.commit with
  | some c => if c ∈ commits then commits else commits ++ [c]
  | none => commits

theorem merge_eq : u.merge a =
    { patterns := addAll a.patterns u.patterns
      smells := addAll a.smells u.smells
      vulnerabilities := addAll a.vulnerabilities u.vulnerabilities
      suggestions := addAll a.suggestions u.suggestions
      documentation := u.documentation.or a.documentation
      lastModified := some u.lastModified
      contributors := u.contributors.foldl Annotations.withName a.contributors
      commits := u.commitsAfter a.commits } := by
  simp only [merge, Annotations.foldl_addContributor_eq, commitsAfter]
  cases u.commit with
  | none => rfl
  | some c =>
    simp only [Annotations.addCommit]
    split <;> rfl

theorem commitsAfter_twice (commits : List Commit) :
    u.commitsAfter (u.commitsAfter commits) = u.commitsAfter commits := by
  unfold commitsAfter
  cases u.commit with
  | none => rfl
  | some c => by_cases h : c ∈ commits <;> simp [h]

theorem merge_merge : u.merge (u.merge a) = u.merge a := by
  have hdocumentation : u.documentation.or (u.documentation.or a.documentation) =
      u.documentation.or a.documentation := by
    cases u.documentation <;> rfl
  simp only [merge_eq, addAll_addAll, hdocumentation, Annotations.foldl_withName_twice, commitsAfter_twice]

end AnalysisUpdate

theorem AnalyzerResult.merge_merge (r : AnalyzerResult) (n : Node) : r.merge (r.merge n) = r.merge n := by
  have hdocumentation : r.documentation.or (r.documentation.or n.analysis.documentation) =
      r.documentation.or n.analysis.documentation := by
    cases r.documentation <;> rfl
  simp only [merge, Metrics.setAll_setAll, addAll_addAll, hdocumentation]

theorem NodePatch.apply_apply (p : NodePatch) (n : Node) : p.apply (p.apply n) = p.apply n := by
  have hkept : ∀ {α : Type} (o : Option α) (x : α), o.getD (o.getD x) = o.getD x := fun o x => by cases o <;> rfl
  simp only [apply, hkept, Metrics.setAll_setAll, Relationships.cells.foldl_twice]

namespace NodeEdit

theorem insert_insert (ids : StringSet) (id : String) : (ids.insert id).insert id = ids.insert id := by
  apply Std.ExtTreeSet.ext_mem
  intro x
  rw [Std.ExtTreeSet.mem_insert, Std.ExtTreeSet.mem_insert, ← or_assoc, or_self]

theorem erase_erase (ids : StringSet) (id : String) : (ids.erase id).erase id = ids.erase id := by
  apply Std.ExtTreeSet.ext_mem
  intro x
  rw [Std.ExtTreeSet.mem_erase, Std.ExtTreeSet.mem_erase, ← and_assoc, and_self]

/-- Where an edit has just been made, it does nothing. -/
theorem apply_apply (how : NodeEdit) (n : Node) : how.apply (how.apply n) = how.apply n := by
  cases how with
  | create => rfl
  | patch p => exact p.apply_apply n
  | imports ids => rfl
  | addUser id => simp only [apply, DependencyChange.addUser, insert_insert]
  | dropUser id => simp only [apply, DependencyChange.dropUser, erase_erase]
  | update u => simp only [apply, u.merge_merge]
  | result r => exact r.merge_merge n

theorem apply_finite (how : NodeEdit) {n : Node} (h : n.metrics.Finite) : (how.apply n).metrics.Finite := by
  obtain ⟨values, hvalues⟩ := how.metrics_apply n
  rw [hvalues]
  exact Metrics.setAll_finite h values

end NodeEdit
end CodeGraph
