import CodeGraph.Proofs.Project.Dependencies
/-!
Malformed imports in a report on a project. What is neither a list nor a text nor nothing is noted and read as a list of
no imports, so that the imports of its file are dropped.
-/
namespace CodeGraph

/-- A node that lists no imports, in none of its three sets of them. -/
structure Node.Importless (n : Node) : Prop where
  imports : n.relationships.imports = ∅
  uses : n.relationships.uses = ∅
  dependencies : n.dependencies = ∅

theorem Node.Importless.setImports_empty {n : Node} (h : n.Importless) : DependencyChange.setImports ∅ n = n := by
  obtain ⟨himports, huses, hdependencies⟩ := h
  cases n with
  | mk id kind name path dependencies metrics relationships context analysis =>
    cases relationships
    dsimp only at himports huses hdependencies
    rw [DependencyChange.setImports, himports, huses, hdependencies]

namespace Store

/-- Stores that tell the same of what a file imports: the file itself, the edges from it, and the users that the other
nodes list. -/
structure SameOutgoing (path : String) (s s' : Store) : Prop where
  imports : (s'.nodeOr path Node.fileKind).relationships.imports = (s.nodeOr path Node.fileKind).relationships.imports
  uses : (s'.nodeOr path Node.fileKind).relationships.uses = (s.nodeOr path Node.fileKind).relationships.uses
  dependencies : (s'.nodeOr path Node.fileKind).dependencies = (s.nodeOr path Node.fileKind).dependencies
  edge : ∀ b, s'.edge? path b = s.edge? path b
  users : ∀ b, s'.UsedBy path b ↔ s.UsedBy path b

namespace SameOutgoing
variable {path : String} {s s' s'' : Store}

theorem refl (path : String) (s : Store) : SameOutgoing path s s :=
  ⟨rfl, rfl, rfl, fun _ => rfl, fun _ => Iff.rfl⟩

theorem trans (h : SameOutgoing path s s') (h' : SameOutgoing path s' s'') : SameOutgoing path s s'' :=
  ⟨h'.imports.trans h.imports, h'.uses.trans h.uses, h'.dependencies.trans h.dependencies,
    fun b => (h'.edge b).trans (h.edge b), fun b => (h'.users b).trans (h.users b)⟩

theorem importless_iff (h : SameOutgoing path s s') :
    (s'.nodeOr path Node.fileKind).Importless ↔ (s.nodeOr path Node.fileKind).Importless := by
  constructor
  · exact fun hless => ⟨h.imports ▸ hless.imports, h.uses ▸ hless.uses, h.dependencies ▸ hless.dependencies⟩
  · exact fun hless => ⟨h.imports.trans hless.imports, h.uses.trans hless.uses,
      h.dependencies.trans hless.dependencies⟩

/-- Nodes that are the same but for other users tell the same of the imports. -/
theorem of_nodeOr (change : String → Node → Node)
    (hnode : ∀ x, s'.nodeOr x Node.fileKind = change x (s.nodeOr x Node.fileKind))
    (himports : ∀ n, (change path n).relationships.imports = n.relationships.imports)
    (huses : ∀ n, (change path n).relationships.uses = n.relationships.uses)
    (hdependencies : ∀ n, (change path n).dependencies = n.dependencies)
    (husers : ∀ x n, path ∈ (change x n).relationships.usedBy ↔ path ∈ n.relationships.usedBy)
    (hedge : ∀ b, s'.edge? path b = s.edge? path b) : SameOutgoing path s s' where
  imports := by rw [hnode, himports]
  uses := by rw [hnode, huses]
  dependencies := by rw [hnode, hdependencies]
  edge := hedge
  users b := by rw [s'.usedBy_iff path b Node.fileKind, hnode, husers, ← usedBy_iff]

end SameOutgoing

theorem nodeOr_ensureNode (s : Store) (now : Time) (id : String) (change : ChangeKind) (x : String) :
    (s.ensureNode now id Node.fileKind change).1.nodeOr x Node.fileKind = s.nodeOr x Node.fileKind := by
  unfold ensureNode
  split
  · rfl
  · next hmissing =>
    rw [contains_eq, Option.not_isSome_iff_eq_none] at hmissing
    rw [nodeOr, node?_modify, edited, nodeOr]
    split
    · next hx => rw [← hx, hmissing]; rfl
    · rfl

theorem ensureNode_sameOutgoing (s : Store) (now : Time) (id : String) (change : ChangeKind) (path : String) :
    SameOutgoing path s (s.ensureNode now id Node.fileKind change).1 := by
  refine .of_nodeOr (fun _ n => n) (s.nodeOr_ensureNode now id change) (fun _ => rfl) (fun _ => rfl)
    (fun _ => rfl) (fun _ _ => Iff.rfl) fun b => ?_
  unfold ensureNode
  split
  · rfl
  · rw [edge?_modify]

end Store

namespace DependencyChange
open Store
variable {c : DependencyChange} {s t : Store} {reported : StringSet} {path : String}

/-- Every node is rewritten from the one that stood there, or from the one that would be created. -/
theorem Replaced.nodeOr (h : c.Replaced s t reported) (x : String) :
    t.nodeOr x Node.fileKind = c.rewrite (s.importsOf c.path) x (s.nodeOr x Node.fileKind) := by
  rw [Store.nodeOr, h.node, Store.nodeOr]
  cases s.node? x with
  | some n => rw [nodeAfter_some, Option.getD_some, Option.getD_some]
  | none =>
    rw [nodeAfter_none, Option.getD_none]
    split
    · rfl
    · next hmet =>
      -- A node that does not come to be would have no users to drop.
      rw [not_or] at hmet
      have herase : (∅ : StringSet).erase c.path = ∅ := by simp
      simp only [rewrite, usersAfter, if_neg hmet.1, if_neg hmet.2, Option.getD_none]
      split
      · simp [Node.ofId, herase]
      · rfl

theorem mem_usersAfter (hpath : path ≠ c.path) (previous : StringSet) (x : String) (ids : StringSet) :
    path ∈ c.usersAfter previous x ids ↔ path ∈ ids := by
  unfold usersAfter
  split
  · simp [Ne.symm hpath]
  · split
    · simp [Ne.symm hpath]
    · exact Iff.rfl

/-- Replacing the imports of one file changes nothing about those of another. -/
theorem Replaced.sameOutgoing_other (h : c.Replaced s t reported) (hpath : path ≠ c.path) : SameOutgoing path s t := by
  refine .of_nodeOr _ h.nodeOr (rewrite_imports hpath) (fun n => ?_) (fun n => ?_) (fun x n => ?_) fun b => ?_
  · simp only [rewrite, if_neg hpath]
  · simp only [rewrite, if_neg hpath]
  · have husers : (c.rewrite (s.importsOf c.path) x n).relationships.usedBy =
        c.usersAfter (s.importsOf c.path) x n.relationships.usedBy := by
      simp only [rewrite]
      split <;> rfl
    rw [husers, mem_usersAfter hpath]
  · rw [h.edge, if_neg hpath]

/-- Replacing no imports by none changes nothing about them. -/
theorem Replaced.sameOutgoing_none (h : Replaced ⟨path, []⟩ s t reported)
    (hless : (s.nodeOr path Node.fileKind).Importless) : SameOutgoing path s t := by
  have hprevious : s.importsOf path = ∅ := by
    have himports := hless.imports
    unfold Store.nodeOr at himports
    unfold importsOf
    cases hn : s.node? path with
    | none => rfl
    | some n => rwa [hn] at himports
  have hwanted : ∀ x, x ∉ wanted ⟨path, []⟩ := fun x hx => by simp [mem_wanted] at hx
  have hsame : ∀ x, t.nodeOr x Node.fileKind = s.nodeOr x Node.fileKind := by
    intro x
    rw [h.nodeOr, hprevious]
    by_cases hx : x = path
    · subst hx
      rw [rewrite_path]
      simp only [Std.ExtTreeSet.not_mem_empty, if_false]
      exact hless.setImports_empty
    · rw [rewrite_other (by simp [Meets, hx, hwanted]), id]
  refine .of_nodeOr (fun _ n => n) hsame (fun _ => rfl) (fun _ => rfl) (fun _ => rfl)
    (fun _ _ => Iff.rfl) fun b => ?_
  rw [h.edge, if_pos rfl, hprevious, edgeAfter, if_neg (hwanted b), if_neg Std.ExtTreeSet.not_mem_empty]

/-- A file for which no imports are settled lists none. -/
theorem Settled.importless (h : Settled ⟨path, []⟩ s) : (s.nodeOr path Node.fileKind).Importless := by
  obtain ⟨n, hn, hset⟩ := h.file
  rw [Store.nodeOr, hn, Option.getD_some, ← hset]
  exact ⟨rfl, rfl, rfl⟩

end DependencyChange

/-- Neither a list nor a text nor nothing. -/
def Inbound.Malformed (j : Json) : Prop := j ≠ .null ∧ (∀ text, j ≠ .str text) ∧ ∀ items, j ≠ .arr items

namespace Inbound
variable {ms : Members} {field : String} {j : Json}

/-- What is malformed is noted and read as an empty list. -/
theorem strings_malformed (hfind : find? ms field = some j) (h : Malformed j) :
    strings ms field = ⟨[], ["`" ++ field ++ "` is not an array"]⟩ := by
  obtain ⟨hnull, htext, hitems⟩ := h
  unfold strings
  rw [hfind]
  cases j with
  | null => exact absurd rfl hnull
  | str text => exact absurd rfl (htext text)
  | arr items => exact absurd rfl (hitems items)
  | _ => rfl

theorem Malformed.listed (h : Malformed j) : listed (some j) = [] := by
  obtain ⟨-, htext, hitems⟩ := h
  cases j with
  | str text => exact absurd rfl (htext text)
  | arr items => exact absurd rfl (hitems items)
  | _ => rfl

end Inbound

namespace ProjectUpdate

/-- All that stands under the keys of a file is malformed. -/
def MalformedFor (root : String) (payload : Json) (path : String) : Prop :=
  ∀ m ∈ importMembers payload, ProjectPath.normalize root m.1 = .ok path → Inbound.Malformed m.2

section Malformed
variable {root : String} {payload : Json} {path : String}

theorem lastKey?_eq_none_iff :
    lastKey? root payload path = none ↔ ∀ m ∈ importMembers payload, ProjectPath.normalize root m.1 ≠ .ok path := by
  simp [lastKey?, sourceKeys]

/-- What is looked up under a key of the file is malformed. -/
theorem MalformedFor.lookup (h : MalformedFor root payload path) {m : String × Json} (hm : m ∈ importMembers payload)
    (hpath : ProjectPath.normalize root m.1 = .ok path) :
    ∃ j, (importMembers payload).lookup m.1 = some j ∧ Inbound.Malformed j := by
  cases hj : (importMembers payload).lookup m.1 with
  | none => simpa using List.lookup_eq_none_iff.mp hj m hm
  | some j => exact ⟨j, rfl, h (m.1, j) (mem_of_lookup hj) hpath⟩

/-- A file under whose keys all is malformed is read as one that imports nothing. -/
theorem MalformedFor.dependencies (h : MalformedFor root payload path) (now : Time) :
    (parse now root payload).dependencies[path]? = (lastKey? root payload path).map fun _ => [] := by
  rw [parse_dependencies_getElem?]
  cases hlast : lastKey? root payload path with
  | none => rfl
  | some last =>
    obtain ⟨m, hm, rfl⟩ := List.mem_map.mp (List.mem_reverse.mp (List.mem_of_find?_eq_some hlast))
    obtain ⟨j, hj, hmalformed⟩ := h.lookup hm (normalize_lastKey hlast)
    rw [Option.map_some, Option.map_some, targetTexts, hj, hmalformed.listed]
    rfl

theorem readSources_anomalies (root : String) (sources : Members) {members : List (String × Json)} {m : String × Json}
    (hm : m ∈ members) : (readSource root sources m.1).anomalies <:+: (readSources root sources members).anomalies := by
  induction members with
  | nil => cases hm
  | cons first rest ih =>
    rcases List.mem_cons.mp hm with rfl | hrest
    · exact Noted.infix_bind_left (List.infix_refl _)
    · exact Noted.infix_bind_right (Noted.infix_bind_left (ih hrest))

/-- What is noted about a source stands among the notes about the report. -/
theorem parse_anomalies_source (now : Time) {m : String × Json} (hm : m ∈ importMembers payload) :
    (readSource root (some (importMembers payload)) m.1).anomalies <:+: (parse now root payload).anomalies := by
  have hsources : (Inbound.nested (layout payload) "dependencies").value = some (importMembers payload) := by
    rw [Inbound.nested_value, importMembers]
    cases hfound : (Inbound.find? (layout payload) "dependencies").bind Json.obj? with
    | none => simp [importMembers, hfound] at hm
    | some members => rfl
  have hread := readSources_anomalies root (some (importMembers payload)) hm
  -- The imports come after the object, the id of the project, its layout, the files and the directories.
  change _ <:+: (gather now root payload).anomalies
  iterate 8 refine Noted.infix_bind_right ?_
  refine Noted.infix_bind_left ?_
  rw [layout_eq, hsources]
  exact hread

theorem MalformedFor.noted (h : MalformedFor root payload path) (now : Time) {m : String × Json}
    (hm : m ∈ importMembers payload) (hpath : ProjectPath.normalize root m.1 = .ok path) :
    "`" ++ m.1 ++ "` is not an array" ∈ (parse now root payload).anomalies := by
  obtain ⟨j, hj, hmalformed⟩ := h.lookup hm hpath
  have hnote : Inbound.strings (some (importMembers payload)) m.1 = ⟨[], ["`" ++ m.1 ++ "` is not an array"]⟩ :=
    Inbound.strings_malformed hj hmalformed
  refine (parse_anomalies_source now hm).subset ?_
  rw [readSource, hpath]
  change _ ∈ (Inbound.strings (some (importMembers payload)) m.1).anomalies ++ _
  rw [hnote]
  exact List.mem_append_left _ List.mem_cons_self

/-- Malformed imports of a file are noted, but they are not passed over: what the graph tells of the imports of the file
stays as it was just if the report has no key for the file or the file had no imports before. -/
theorem malformed_kept_iff (h : MalformedFor root payload path) (now later : Time) (s : Store) :
    let u := parse now root payload
    (∀ m ∈ importMembers payload, ProjectPath.normalize root m.1 = .ok path →
      "`" ++ m.1 ++ "` is not an array" ∈ u.anomalies) ∧
    (s.SameOutgoing path (u.apply later s).1 ↔
      (∀ m ∈ importMembers payload, ProjectPath.normalize root m.1 ≠ .ok path) ∨
      (s.nodeOr path Node.fileKind).Importless) := by
  intro u
  refine ⟨fun m hm => h.noted now hm, ?_⟩
  have hread : u.dependencies[path]? = (lastKey? root payload path).map fun _ => [] := h.dependencies now
  rw [← lastKey?_eq_none_iff]
  constructor
  · intro hsame
    cases hlast : lastKey? root payload path with
    | none => exact Or.inl rfl
    | some last =>
      rw [hlast, Option.map_some, ← Std.ExtTreeMap.mem_toList_iff_getElem?_eq_some] at hread
      have hsettled : DependencyChange.Settled ⟨path, []⟩ (u.apply later s).1 :=
        (u.apply_settled s).sources (path, []) hread
      exact Or.inr (hsame.importless_iff.mp hsettled.importless)
  · intro hkept
    refine apply_induction (P := fun t => s.SameOutgoing path t) (.refl path s)
      (fun t file _ ht => ht.trans (t.ensureNode_sameOutgoing later file .file path)) ?_
    rintro t payload ⟨file, targets⟩ hsource ht
    have hreplaced := DependencyChange.apply_replaced ⟨file, targets⟩ later payload t
    by_cases hpath : path = file
    · subst hpath
      rw [Std.ExtTreeMap.mem_toList_iff_getElem?_eq_some, hread] at hsource
      rcases hkept with hnone | hless
      · rw [hnone] at hsource
        cases hsource
      · obtain ⟨-, -, rfl⟩ := Option.map_eq_some_iff.mp hsource
        exact ht.trans (hreplaced.sameOutgoing_none (ht.importless_iff.mpr hless))
    · exact ht.trans (hreplaced.sameOutgoing_other hpath)

end Malformed

/-- Malformed entries do no harm to a file that had no imports. -/
theorem leaf_kept :
    let payload := importsReport [("./db", .bool true), ("db", .nat 5), ("main", .obj [])]
    let u := parse Store.noon "/srv/app" payload
    MalformedFor "/srv/app" payload "db" ∧ "`db` is not an array" ∈ u.anomalies ∧
    (Store.importing.nodeOr "db" Node.fileKind).Importless ∧
    Store.importing.SameOutgoing "db" (u.apply Store.night Store.importing).1 := by
  intro payload u
  have hmalformed : MalformedFor "/srv/app" payload "db" := by
    intro m hm _
    have hread : m ∈ [("./db", Json.bool true), ("db", .nat 5), ("main", .obj [])] := hm
    simp only [List.mem_cons, List.not_mem_nil, or_false] at hread
    rcases hread with rfl | rfl | rfl <;> exact ⟨nofun, nofun, nofun⟩
  have hless : (Store.importing.nodeOr "db" Node.fileKind).Importless :=
    ⟨by decide +kernel, by decide +kernel, by decide +kernel⟩
  obtain ⟨hnoted, hkept⟩ := malformed_kept_iff hmalformed Store.noon Store.night Store.importing
  have hmem : ("db", Json.nat 5) ∈ importMembers payload := List.mem_cons_of_mem _ List.mem_cons_self
  exact ⟨hmalformed, hnoted _ hmem (by decide +kernel), hless, hkept.mpr (Or.inr hless)⟩

/-- A number in place of its imports makes a file lose all that it had. -/
theorem misread_lost :
    let payload := importsReport [("main", .nat 5)]
    let u := parse Store.noon "/srv/app" payload
    let s := (u.apply Store.night Store.importing).1
    MalformedFor "/srv/app" payload "main" ∧ u.anomalies = ["`main` is not an array"] ∧
    Store.importing.Imports "main" "db" ∧ Store.importing.UsedBy "main" "db" ∧ Store.importing.Joins "main" "db" ∧
    ¬ s.Imports "main" "db" ∧ ¬ s.UsedBy "main" "db" ∧ ¬ s.Joins "main" "db" := by
  intro payload u s
  have hmalformed : MalformedFor "/srv/app" payload "main" := by
    intro m hm _
    have hread : m ∈ [("main", Json.nat 5)] := hm
    rw [List.mem_singleton.mp hread]
    exact ⟨nofun, nofun, nofun⟩
  have hnone : s.edge? "main" "db" = none := by decide +kernel
  simp only [Store.imports_iff_mem, Store.usedBy_iff _ "main" "db" Node.fileKind]
  refine ⟨hmalformed, by decide +kernel, by decide +kernel, by decide +kernel, ⟨_, rfl⟩, by decide +kernel,
    by decide +kernel, ?_⟩
  rintro ⟨e, he⟩
  rw [hnone] at he
  cases he

end ProjectUpdate
end CodeGraph
