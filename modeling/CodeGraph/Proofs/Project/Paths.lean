import CodeGraph.Project.Path
import CodeGraph.Proofs.Text.Trimmed
/-!
Normal paths. Whatever is reported, a path that is taken leads from the root down by names only, so that nothing outside
the root can be meant by it.
-/
namespace CodeGraph.ProjectPath

/-- What may stand between two slashes of a normal path. -/
structure IsName (p : List Char) : Prop where
  nonempty : p ≠ []
  notHere : p ≠ ['.']
  notUp : p ≠ ['.', '.']
  noBackslash : '\\' ∉ p

/-- A path of one or more names that does not start at the top. -/
structure Contained (path : String) : Prop where
  relative : ¬ isAbsolute path.toList
  names : ∀ p ∈ path.toList.splitOn '/', IsName p

theorem of_mem_splitOnP {q : Char → Bool} {cs p : List Char} (h : p ∈ cs.splitOnP q) :
    ∀ c ∈ p, c ∈ cs ∧ q c = false := by
  induction cs generalizing p with
  | nil => simp_all [List.splitOnP_nil]
  | cons x xs ih =>
    rw [List.splitOnP_cons_eq_if_modifyHead] at h
    split at h
    · rcases List.mem_cons.mp h with rfl | h
      · simp
      · exact fun c hc => ⟨List.mem_cons_of_mem x (ih h c hc).1, (ih h c hc).2⟩
    · next hx =>
      obtain ⟨first, rest, hsplit⟩ := List.exists_cons_of_ne_nil (List.splitOnP_ne_nil q xs)
      rw [hsplit, List.modifyHead_cons] at h
      rw [hsplit] at ih
      have hrest : ∀ p ∈ first :: rest, ∀ c ∈ p, c ∈ x :: xs ∧ q c = false :=
        fun p hp c hc => ⟨List.mem_cons_of_mem x (ih hp c hc).1, (ih hp c hc).2⟩
      rcases List.mem_cons.mp h with rfl | h
      · intro c hc
        rcases List.mem_cons.mp hc with rfl | hc
        · exact ⟨List.mem_cons_self, Bool.eq_false_iff.mpr hx⟩
        · exact hrest first List.mem_cons_self c hc
      · exact hrest p (List.mem_cons_of_mem first h)

theorem not_mem_slashed (cs : List Char) : '\\' ∉ slashed cs := by
  intro h
  obtain ⟨c, -, hc⟩ := List.mem_map.mp h
  split at hc
  · cases hc
  · next hback => exact hback (by simp [hc])

/-- What is followed from the root: names between slashes, and steps up. -/
structure IsPart (p : List Char) : Prop where
  unslashed : '/' ∉ p
  up_or_name : p = ['.', '.'] ∨ IsName p

theorem parts_slashed {cs p : List Char} (h : p ∈ parts (slashed cs)) : IsPart p := by
  obtain ⟨hsplit, hkept⟩ := List.mem_filter.mp h
  have hchars := of_mem_splitOnP hsplit
  simp only [Bool.and_eq_true, Bool.not_eq_true', List.isEmpty_eq_false_iff, bne_iff_ne] at hkept
  refine ⟨fun hslash => ?_, ?_⟩
  · have hnot := (hchars '/' hslash).2
    simp at hnot
  · by_cases hup : p = ['.', '.']
    · exact Or.inl hup
    · exact Or.inr ⟨hkept.1, hkept.2, hup, fun hback => not_mem_slashed cs (hchars '\\' hback).1⟩

theorem fromRoot?_parts {root cs : List Char} {ps : List (List Char)} (h : fromRoot? root (slashed cs) = some ps) :
    ∀ p ∈ ps, IsPart p := by
  intro p hp
  unfold fromRoot? at h
  split at h
  · split at h
    · unfold below? at h
      split at h
      · cases h
        exact parts_slashed (List.mem_of_mem_drop hp)
      · cases h
    · cases h
  · cases h
    exact parts_slashed hp

/-- A step up is never among the names that are left. -/
theorem follow_names {names ps out : List (List Char)} (h : follow names ps = some out)
    (hnames : ∀ p ∈ names, '/' ∉ p ∧ IsName p) (hps : ∀ p ∈ ps, IsPart p) : ∀ p ∈ out, '/' ∉ p ∧ IsName p := by
  induction ps generalizing names with
  | nil =>
    cases h
    exact hnames
  | cons q rest ih =>
    obtain ⟨hq, hrest⟩ := List.forall_mem_cons.mp hps
    unfold follow at h
    split at h
    · cases names with
      | nil => cases h
      | cons inner outer => exact ih h (List.forall_mem_cons.mp hnames).2 hrest
    · next hup =>
      have hname : '/' ∉ q ∧ IsName q := ⟨hq.unslashed, hq.up_or_name.resolve_left (by simpa using hup)⟩
      exact ih h (List.forall_mem_cons.mpr ⟨hname, hnames⟩) hrest

theorem splitOn_joined {names : List (List Char)} (hne : names ≠ []) (h : ∀ p ∈ names, '/' ∉ p) :
    (joined names).toList.splitOn '/' = names := by
  rw [joined, String.toList_ofList]
  exact List.splitOn_intercalate '/' h hne

theorem joined_contained {names : List (List Char)} (hne : names ≠ []) (h : ∀ p ∈ names, '/' ∉ p ∧ IsName p) :
    Contained (joined names) := by
  have hsplit : (joined names).toList.splitOn '/' = names := splitOn_joined hne fun p hp => (h p hp).1
  refine ⟨fun habsolute => ?_, fun p hp => (h p (hsplit ▸ hp)).2⟩
  -- A path that starts at the top has an empty part before its first slash.
  obtain ⟨rest, hrest⟩ : ∃ rest, (joined names).toList = '/' :: rest := by
    cases hcs : (joined names).toList with
    | nil => simp [hcs, isAbsolute] at habsolute
    | cons c rest =>
      rw [hcs, isAbsolute, List.head?_cons, beq_iff_eq, Option.some.injEq] at habsolute
      exact ⟨rest, by rw [habsolute]⟩
  have hempty : [] ∈ names := by
    rw [← hsplit, hrest, List.splitOn_eq_splitOnP, List.splitOnP_cons_eq_if_modifyHead]
    simp
  exact (h [] hempty).2.nonempty rfl

/-- What it takes for a path to be taken. -/
theorem normalize_ok {root raw path : String} (h : normalize root raw = .ok path) :
    ∃ ps names, fromRoot? root.toList (slashed (Text.trimChars raw.toList)) = some ps ∧ follow [] ps = some names ∧
      names ≠ [] ∧ path = joined names.reverse := by
  simp only [normalize] at h
  split at h
  · cases h
  · split at h
    · cases h
    · next ps hps =>
      split at h
      · cases h
      · split at h
        · cases h
        · cases h
        · next names hne hnames =>
          cases h
          exact ⟨ps, names, hps, hnames, hne, rfl⟩

theorem normalize_contained {root raw path : String} (h : normalize root raw = .ok path) : Contained path := by
  obtain ⟨ps, names, hps, hnames, hne, rfl⟩ := normalize_ok h
  have hall := follow_names hnames (by simp) (fromRoot?_parts hps)
  exact joined_contained (List.reverse_ne_nil_iff.mpr hne) fun p hp => hall p (List.mem_reverse.mp hp)

example : normalize "/srv/app" " src\\..\\./lib//a.rs" = .ok "lib/a.rs" := by decide +kernel

theorem Contained.ne_empty {path : String} (h : Contained path) : path ≠ "" := by
  rintro rfl
  exact (h.names [] (by simp)).nonempty rfl

/-- Blanks around a path do not matter, but for the text of a refusal. -/
theorem normalize_trim (root raw : String) :
    (normalize root (Text.trim raw)).toOption = (normalize root raw).toOption := by
  simp only [normalize, Text.trim_toList, Text.trimChars_trimChars]
  repeat' split
  all_goals rfl

/-- A text that is taken is not blank, and it is taken without its blanks as well. -/
theorem normalize_trimmed? (root raw : String) :
    ((Text.trimmed? raw).bind fun text => (normalize root text).toOption) = (normalize root raw).toOption := by
  rw [← normalize_trim, Text.trimmed?]
  split
  · next hblank =>
    rw [String.isEmpty_iff.mp hblank]
    rfl
  · rw [Option.bind_some]

end CodeGraph.ProjectPath
