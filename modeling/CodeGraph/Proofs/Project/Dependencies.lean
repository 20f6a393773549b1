import CodeGraph.Proofs.Graph.Outcome
import CodeGraph.Proofs.Graph.Repeated
import CodeGraph.Proofs.Project.Reading
/-!
What becomes of the imports that a report lists. Of several keys that stand for one file only the last one counts: what
is listed under the others comes neither into the update nor into the store, and nothing is noted about it.
-/
namespace CodeGraph

theorem Store.imports_iff_mem {s : Store} {a b : String} : s.Imports a b ↔ b ∈ s.importsOf a := by
  rw [Imports, importsOf]
  cases s.node? a with
  | none => simp
  | some n => simp

namespace DependencyChange.Settled
variable {c : DependencyChange} {s : Store} {target : String}

theorem imports_iff (h : c.Settled s) : s.Imports c.path target ↔ target ∈ c.dependencies ∧ target ≠ c.path := by
  rw [Store.imports_iff_mem, h.imports, c.mem_wanted]

theorem joins (h : c.Settled s) (htarget : target ∈ c.dependencies) (hne : target ≠ c.path) :
    s.Joins c.path target := by
  have hedge := h.edge target
  rw [edgeAfter, if_pos (c.mem_wanted.mpr ⟨htarget, hne⟩)] at hedge
  exact ⟨_, hedge.symm⟩

end DependencyChange.Settled

namespace ProjectUpdate

section Listed
variable (root : String) (payload : Json)

/-- The last of the keys that stand for a file. -/
def lastKey? (path : String) : Option String :=
  (sourceKeys payload).reverse.find? fun key => ProjectPath.normalize root key = .ok path

/-- A key that stands for a file, with a text under it that stands for one of its imports. -/
structure Lists (key path target : String) : Prop where
  mem : key ∈ sourceKeys payload
  normal : ProjectPath.normalize root key = .ok path
  target : ∃ text ∈ targetTexts payload key, ProjectPath.normalize root text = .ok target

end Listed

section Read
variable {root : String} {payload : Json}

theorem normalize_lastKey {path last : String} (h : lastKey? root payload path = some last) :
    ProjectPath.normalize root last = .ok path := by
  simpa using List.find?_some h

theorem lists_last {path last target : String} (h : lastKey? root payload path = some last) :
    Lists root payload last path target ↔ target ∈ taken root (targetTexts payload last) :=
  ⟨fun hlists => mem_taken.mpr hlists.target, fun htarget =>
    ⟨List.mem_reverse.mp (List.mem_of_find?_eq_some h), normalize_lastKey h, mem_taken.mp htarget⟩⟩

theorem Lists.lastKey {key path target : String} (h : Lists root payload key path target) :
    ∃ last, lastKey? root payload path = some last := by
  rw [← Option.isSome_iff_exists, lastKey?, List.find?_isSome]
  exact ⟨key, List.mem_reverse.mpr h.mem, decide_eq_true h.normal⟩

/-- The imports of a file are those that are listed under the last key that stands for it. -/
theorem parse_dependencies_getElem? (now : Time) (root : String) (payload : Json) (path : String) :
    (parse now root payload).dependencies[path]? =
      (lastKey? root payload path).map fun key => taken root (targetTexts payload key) := by
  -- The search from the last entry on is one from the last key on, as an entry has the path of its key.
  rw [parse_dependencies_eq, getElem?_ofList, ← List.filterMap_reverse, List.find?_filterMap]
  have hstands : ∀ key, ((ProjectPath.normalize root key).toOption.map (·, taken root (targetTexts payload key))).any
      (·.1 == path) = decide (ProjectPath.normalize root key = .ok path) := by
    intro key
    cases ProjectPath.normalize root key with
    | ok p => simp [Except.toOption, beq_eq_decide]
    | error fault => simp [Except.toOption]
  simp only [hstands]
  rw [← lastKey?]
  cases hlast : lastKey? root payload path with
  | none => rfl
  | some last => simp [normalize_lastKey hlast, Except.toOption]

/-- An import that is listed for a file is kept just if it is listed under the last key that stands for the file. Then
the file imports it and an edge joins the two, whatever was stored before. -/
theorem listed_kept_iff {key path target : String} (h : Lists root payload key path target) (now : Time) :
    let u := parse now root payload
    ∃ last, lastKey? root payload path = some last ∧
      (target ∈ u.dependencies[path]?.getD [] ↔ Lists root payload last path target) ∧
      (path ≠ target → ∀ later s, let s' := (u.apply later s).1
        (s'.Imports path target ↔ Lists root payload last path target) ∧
        (Lists root payload last path target → s'.Joins path target)) := by
  intro u
  obtain ⟨last, hlast⟩ := h.lastKey
  have hread : u.dependencies[path]? = some (taken root (targetTexts payload last)) := by
    rw [parse_dependencies_getElem?, hlast, Option.map_some]
  refine ⟨last, hlast, ?_, fun hne later s => ?_⟩
  · rw [lists_last hlast, hread, Option.getD_some]
  · have hsettled : DependencyChange.Settled ⟨path, taken root (targetTexts payload last)⟩ (u.apply later s).1 :=
      (u.apply_settled s).sources (path, taken root (targetTexts payload last))
        (Std.ExtTreeMap.mem_toList_iff_getElem?_eq_some.mpr hread)
    refine ⟨?_, fun hlists => hsettled.joins ((lists_last hlast).mp hlists) (Ne.symm hne)⟩
    rw [lists_last hlast]
    exact hsettled.imports_iff.trans (and_iff_left (Ne.symm hne))

end Read

/-- A report that lists imports and nothing else. -/
def importsReport (sources : List (String × Json)) : Json :=
  .obj [("projectId", .str "app"), ("structure", .obj [("dependencies", .obj sources)])]

/-- What a later key repeats is kept. -/
theorem relisted_kept :
    let payload := importsReport [("./a", .arr [.str "b"]), ("a", .arr [.str "c", .str " ./b"])]
    let u := parse Store.noon "/srv/app" payload
    Lists "/srv/app" payload "./a" "a" "b" ∧ lastKey? "/srv/app" payload "a" = some "a" ∧
    "b" ∈ u.dependencies["a"]?.getD [] ∧
    ∀ s, (u.apply Store.night s).1.Imports "a" "b" ∧ (u.apply Store.night s).1.Joins "a" "b" := by
  intro payload u
  have hfirst : Lists "/srv/app" payload "./a" "a" "b" := ⟨by decide +kernel, by decide +kernel, by decide +kernel⟩
  have hagain : Lists "/srv/app" payload "a" "a" "b" := ⟨by decide +kernel, by decide +kernel, by decide +kernel⟩
  have ha : lastKey? "/srv/app" payload "a" = some "a" := by decide +kernel
  obtain ⟨last, hlast, hread, hstored⟩ := listed_kept_iff hfirst Store.noon
  obtain rfl : last = "a" := Option.some.inj (hlast.symm.trans ha)
  refine ⟨hfirst, ha, hread.mpr hagain, fun s => ?_⟩
  obtain ⟨himports, hjoins⟩ := hstored (by decide) Store.night s
  exact ⟨himports.mpr hagain, hjoins hagain⟩

/-- What only an earlier key lists is dropped, without a note. -/
theorem respelt_dropped :
    let payload := importsReport [("./a", .arr [.str "b"]), ("a", .arr [.str "c"])]
    let u := parse Store.noon "/srv/app" payload
    let s := (u.apply Store.night (Store.empty none)).1
    Lists "/srv/app" payload "./a" "a" "b" ∧ u.dependencies["a"]? = some ["c"] ∧ u.anomalies = [] ∧
    ¬ s.Imports "a" "b" ∧ ¬ s.Joins "a" "b" := by
  intro payload u s
  have hnone : s.edge? "a" "b" = none := by decide +kernel
  refine ⟨⟨by decide +kernel, by decide +kernel, by decide +kernel⟩, by decide +kernel, by decide +kernel, ?_, ?_⟩
  · rw [Store.imports_iff_mem]
    decide +kernel
  · rintro ⟨e, he⟩
    rw [hnone] at he
    cases he

end ProjectUpdate
end CodeGraph
