import CodeGraph.Project.Structure
import CodeGraph.Proofs.Project.Paths
import CodeGraph.Proofs.Wire.Reading
/-!
What is read of a report on a project: which of its texts become paths of nodes, and how the files that are refused are
listed and noted.
-/
namespace CodeGraph

namespace Noted
variable {α β : Type}

/-- Why something is refused, if it is. -/
def refusal? (accept : α → Except String β) (a : α) : Option String :=
  match accept a with
  | .ok _ => none
  | .error why => some why

theorem keep_eq (accept : α → Except String β) (as : List α) :
    keep accept as = ⟨as.filterMap fun a => (accept a).toOption, as.filterMap (refusal? accept)⟩ := by
  induction as with
  | nil => rfl
  | cons a as ih =>
    cases ha : accept a with
    | ok b => simp only [keep, ha, ih, List.filterMap_cons, refusal?, Except.toOption]
    | error why => simp only [keep, ha, ih, List.filterMap_cons, refusal?, Except.toOption]

/-- What is noted first stands before what is noted later. -/
theorem infix_bind_left {x : Noted α} {f : α → Noted β} {notes : List String} (h : notes <:+: x.anomalies) :
    notes <:+: (x >>= f).anomalies :=
  h.trans (List.prefix_append _ _).isInfix

theorem infix_bind_right {x : Noted α} {f : α → Noted β} {notes : List String}
    (h : notes <:+: (f x.value).anomalies) : notes <:+: (x >>= f).anomalies :=
  h.trans (List.suffix_append _ _).isInfix

end Noted

namespace Inbound

/-- The texts that a field lists, as they stand: those among the items of an array, or the lines of a text. -/
def listed : Option Json → List String
  | some (.str s) => (Text.lines s).map String.ofList
  | some (.arr items) => items.filterMap Json.str?
  | _ => []

theorem strings_value (ms : Members) (field : String) :
    (strings ms field).value = (listed (find? ms field)).filterMap Text.trimmed? := by
  unfold strings
  cases find? ms field with
  | none => rfl
  | some j =>
    cases j with
    | str s => simp only [listed, List.filterMap_map, textLines, Function.comp_def]
    | arr items =>
      have hitems : (listed (some (.arr items))).filterMap Text.trimmed? = items.filterMap item? :=
        List.filterMap_filterMap
      rw [hitems]
      dsimp only
      split <;> rfl
    | _ => rfl

theorem object_value (payload : Json) : (object payload).value = payload.obj? := by
  cases payload <;> rfl

theorem nested_value (ms : Members) (field : String) : (nested ms field).value = (find? ms field).bind Json.obj? := by
  unfold nested
  cases find? ms field with
  | none => rfl
  | some j => cases j <;> rfl

end Inbound

/-- Why a path is refused, if it is. -/
def ProjectPath.fault? (root raw : String) : Option PathFault :=
  match normalize root raw with
  | .ok _ => none
  | .error fault => some fault

namespace ProjectUpdate

section Texts
variable (root : String) (payload : Json)

/-- What a report tells of the files and their imports. -/
def layout : Members := (payload.get? "structure").bind Json.obj?

/-- The listed files, as they stand in a report. -/
def fileTexts : List String := Inbound.listed (Inbound.find? (layout payload) "files")

/-- The files that import others, each with what it imports. -/
def importMembers : List (String × Json) :=
  ((Inbound.find? (layout payload) "dependencies").bind Json.obj?).getD []

/-- The texts of a report that stand for nodes: files, files that import others, and what these import. -/
def pathTexts : List String :=
  fileTexts payload ++ (importMembers payload).flatMap fun m => m.1 :: Inbound.listed (some m.2)

/-- The keys under which a report lists imports, in their order. -/
def sourceKeys : List String := (importMembers payload).map (·.1)

/-- The texts that are listed under a key, as they stand. -/
def targetTexts (key : String) : List String := Inbound.listed ((importMembers payload).lookup key)

/-- The paths that texts stand for; those that are refused have none. -/
def taken (raws : List String) : List String :=
  raws.filterMap fun raw => (ProjectPath.normalize root raw).toOption

/-- The listed files that are refused, trimmed, each with the reason. -/
def refusedFiles : List (String × PathFault) :=
  (fileTexts payload).filterMap fun raw =>
    (Text.trimmed? raw).bind fun text => (ProjectPath.fault? root text).map (text, ·)

/-- An id that is the normal path of a text of the report. -/
structure Mentions (id : String) : Prop where
  contained : ProjectPath.Contained id
  source : ∃ raw ∈ pathTexts payload, ProjectPath.normalize root raw = .ok id

end Texts

variable {root : String} {payload : Json}

theorem mentions_of_normalize {raw path : String} (hraw : raw ∈ pathTexts payload)
    (h : ProjectPath.normalize root raw = .ok path) : Mentions root payload path :=
  ⟨ProjectPath.normalize_contained h, raw, hraw, h⟩

theorem resolve_toOption (what raw : String) :
    (resolve root what raw).toOption = (ProjectPath.normalize root raw).toOption := by
  unfold resolve
  cases ProjectPath.normalize root raw with
  | ok path => rfl
  | error fault => rfl

theorem refusal?_resolve (what raw : String) : Noted.refusal? (resolve root what) raw =
    (ProjectPath.fault? root raw).map fun fault => "rejected " ++ what ++ " " ++ fault.message := by
  unfold Noted.refusal? resolve ProjectPath.fault?
  cases ProjectPath.normalize root raw with
  | ok path => rfl
  | error fault => rfl

theorem mem_taken {raws : List String} {path : String} :
    path ∈ taken root raws ↔ ∃ raw ∈ raws, ProjectPath.normalize root raw = .ok path := by
  have htaken : ∀ raw, (ProjectPath.normalize root raw).toOption = some path ↔
      ProjectPath.normalize root raw = .ok path := by
    intro raw
    cases ProjectPath.normalize root raw with
    | ok other => simp [Except.toOption]
    | error fault => simp [Except.toOption]
  simp only [taken, List.mem_filterMap, htaken]

/-- Of the texts that a field lists, the paths that they stand for are kept. -/
theorem keep_strings (root what : String) (ms : Members) (field : String) :
    (Noted.keep (resolve root what) (Inbound.strings ms field).value).value =
      taken root (Inbound.listed (Inbound.find? ms field)) := by
  rw [Noted.keep_eq, Inbound.strings_value]
  dsimp only
  rw [List.filterMap_filterMap]
  refine List.filterMap_congr fun raw _ => ?_
  simp only [resolve_toOption, ProjectPath.normalize_trimmed?]

theorem mentions_of_taken {raws : List String} {path : String} (hraws : raws ⊆ pathTexts payload)
    (h : path ∈ taken root raws) : Mentions root payload path := by
  obtain ⟨raw, hraw, hpath⟩ := mem_taken.mp h
  exact mentions_of_normalize (hraws hraw) hpath

theorem mem_distinct {names : List String} {name : String} (h : name ∈ distinct names) : name ∈ names := by
  refine List.foldlRecOn (motive := fun seen => ∀ name ∈ seen, name ∈ names) names _ (by simp) ?_ name h
  intro seen hseen new hnew name hname
  split at hname
  · exact hseen name hname
  · rcases List.mem_append.mp hname with hname | hname
    · exact hseen name hname
    · rwa [List.mem_singleton.mp hname]

/-- Of several entries under one key the last one counts. -/
theorem getElem?_ofList {α : Type} (entries : List (String × α)) (k : String) :
    (Std.ExtTreeMap.ofList entries)[k]? = (entries.reverse.find? (·.1 == k)).map (·.2) := by
  rw [Std.ExtTreeMap.ofList_eq_insertMany_empty, Std.ExtTreeMap.getElem?_insertMany_list,
    List.findSomeRev?_eq_findSome?_reverse, List.find?_eq_findSome?_guard, List.map_findSome?]
  simp only [Std.ExtTreeMap.getElem?_empty, Option.or_none]
  congr 1
  funext entry
  by_cases h : entry.1 = k <;> simp [Option.guard, h]

/-- A map made of entries holds only these. -/
theorem mem_ofList {α : Type} {entries : List (String × α)} {entry : String × α}
    (h : entry ∈ (Std.ExtTreeMap.ofList entries).toList) : entry ∈ entries := by
  rw [Std.ExtTreeMap.mem_toList_iff_getElem?_eq_some, getElem?_ofList, Option.map_eq_some_iff] at h
  obtain ⟨found, hfound, hvalue⟩ := h
  have hkey : found.1 = entry.1 := by simpa using List.find?_some hfound
  rw [← Prod.ext hkey hvalue]
  exact List.mem_reverse.mp (List.mem_of_find?_eq_some hfound)

theorem layout_eq (payload : Json) :
    (Inbound.nested (Inbound.object payload).value "structure").value = layout payload := by
  rw [Inbound.nested_value, Inbound.object_value]
  rfl

theorem parse_files {now : Time} {path : String} (h : path ∈ (parse now root payload).files) :
    Mentions root payload path := by
  have hkept : path ∈ (Noted.keep (resolve root "file") (Inbound.strings
      (Inbound.nested (Inbound.object payload).value "structure").value "files").value).value := mem_distinct h
  rw [layout_eq, keep_strings] at hkept
  exact mentions_of_taken (List.subset_append_left _ _) hkept

theorem readSource_value (root : String) (payload : Json) (key : String) :
    (readSource root (some (importMembers payload)) key).value =
      (ProjectPath.normalize root key).toOption.map (·, taken root (targetTexts payload key)) := by
  unfold readSource
  cases ProjectPath.normalize root key with
  | error fault => rfl
  | ok path => exact congrArg (fun names => some (path, names)) (keep_strings root "dependency" _ key)

theorem readSources_value (root : String) (sources : Members) (members : List (String × Json)) :
    (readSources root sources members).value =
      (members.map (·.1)).filterMap fun key => (readSource root sources key).value := by
  induction members with
  | nil => rfl
  | cons member rest ih =>
    have hstep : (readSources root sources (member :: rest)).value =
        (readSource root sources member.1).value.toList ++ (readSources root sources rest).value := rfl
    rw [hstep, ih, List.map_cons, List.filterMap_cons]
    cases (readSource root sources member.1).value <;> rfl

/-- The imports are read key by key, each with the paths that stand under it. -/
theorem parse_dependencies_eq (now : Time) (root : String) (payload : Json) :
    (parse now root payload).dependencies = .ofList ((sourceKeys payload).filterMap fun key =>
      (ProjectPath.normalize root key).toOption.map (·, taken root (targetTexts payload key))) := by
  have hread : (parse now root payload).dependencies = .ofList (readSources root
      (Inbound.nested (Inbound.nested (Inbound.object payload).value "structure").value "dependencies").value
      ((Inbound.nested (Inbound.nested (Inbound.object payload).value "structure").value
        "dependencies").value.getD [])).value := rfl
  rw [hread, layout_eq, Inbound.nested_value]
  congr 1
  cases hsources : (Inbound.find? (layout payload) "dependencies").bind Json.obj? with
  | none =>
    rw [sourceKeys, importMembers, hsources]
    rfl
  | some sources =>
    have hall : importMembers payload = sources := by
      rw [importMembers, hsources, Option.getD_some]
    rw [Option.getD_some, ← hall, readSources_value]
    exact List.filterMap_congr fun key _ => readSource_value root payload key

theorem targetTexts_subset (payload : Json) (key : String) : targetTexts payload key ⊆ pathTexts payload := by
  intro raw hraw
  rw [targetTexts] at hraw
  cases hj : (importMembers payload).lookup key with
  | none =>
    rw [hj] at hraw
    cases hraw
  | some j =>
    rw [hj] at hraw
    exact List.mem_append_right _ (List.mem_flatMap.mpr ⟨(key, j), mem_of_lookup hj, List.mem_cons_of_mem _ hraw⟩)

theorem sourceKeys_subset (payload : Json) : sourceKeys payload ⊆ pathTexts payload := by
  intro key hkey
  obtain ⟨m, hm, rfl⟩ := List.mem_map.mp hkey
  exact List.mem_append_right _ (List.mem_flatMap.mpr ⟨m, hm, List.mem_cons_self⟩)

/-- A source that is mentioned, with imports that are. -/
def SourceMentioned (root : String) (payload : Json) (source : String × List String) : Prop :=
  Mentions root payload source.1 ∧ ∀ target ∈ source.2, Mentions root payload target

theorem parse_dependencies {now : Time} {source : String × List String}
    (h : source ∈ (parse now root payload).dependencies.toList) : SourceMentioned root payload source := by
  rw [parse_dependencies_eq] at h
  obtain ⟨key, hkey, hread⟩ := List.mem_filterMap.mp (mem_ofList h)
  cases hpath : ProjectPath.normalize root key with
  | error fault =>
    rw [hpath] at hread
    cases hread
  | ok path =>
    rw [hpath] at hread
    cases hread
    exact ⟨mentions_of_normalize (sourceKeys_subset payload hkey) hpath, fun target htarget =>
      mentions_of_taken (targetTexts_subset payload key) htarget⟩

theorem parse_rejectedFiles (now : Time) (root : String) (payload : Json) :
    (parse now root payload).rejectedFiles = (refusedFiles root payload).map (·.1) := by
  have hlisted : (parse now root payload).rejectedFiles = (Inbound.strings
      (Inbound.nested (Inbound.object payload).value "structure").value "files").value.filter
        fun raw => !isAccepted root raw := rfl
  have hrefused : ∀ text, ((ProjectPath.fault? root text).map (text, ·)).map (·.1) =
      Option.guard (fun raw => !isAccepted root raw) text := by
    intro text
    cases hpath : ProjectPath.normalize root text with
    | ok path => simp [ProjectPath.fault?, isAccepted, Option.guard, hpath, Except.isOk, Except.toBool]
    | error fault => simp [ProjectPath.fault?, isAccepted, Option.guard, hpath, Except.isOk, Except.toBool]
  rw [hlisted, layout_eq, Inbound.strings_value, refusedFiles, List.map_filterMap, List.filter_filterMap]
  refine List.filterMap_congr fun raw _ => ?_
  cases Text.trimmed? raw with
  | none => rfl
  | some text => exact (hrefused text).symm

theorem parse_anomalies (now : Time) (root : String) (payload : Json) :
    ((refusedFiles root payload).map fun r => "rejected file " ++ r.2.message) <:+:
      (parse now root payload).anomalies := by
  have hnotes : (Noted.keep (resolve root "file") (Inbound.strings
      (Inbound.nested (Inbound.object payload).value "structure").value "files").value).anomalies =
        (refusedFiles root payload).map fun r => "rejected file " ++ r.2.message := by
    rw [layout_eq, Inbound.strings_value, Noted.keep_eq, refusedFiles, List.map_filterMap]
    dsimp only
    rw [List.filterMap_filterMap]
    refine List.filterMap_congr fun raw _ => ?_
    cases Text.trimmed? raw with
    | none => rfl
    | some text =>
      simp only [Option.bind_some, refusal?_resolve, Option.map_map]
      rfl
  rw [← hnotes]
  -- The files come after the object, the id of the project, its layout and the list itself.
  change _ <:+: (gather now root payload).anomalies
  refine Noted.infix_bind_right (Noted.infix_bind_right (Noted.infix_bind_right (Noted.infix_bind_right ?_)))
  exact Noted.infix_bind_left (List.infix_refl _)

end ProjectUpdate
end CodeGraph
