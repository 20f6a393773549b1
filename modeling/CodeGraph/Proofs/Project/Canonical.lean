import CodeGraph.Proofs.Project.Resolution
/-!
Normal paths that are reported again. Whether they are taken as they stand depends on their first and last names alone:
blanks and drive letters are looked for in a path before the steps are followed that may bring them to its ends.
-/
namespace CodeGraph.ProjectPath

/-! ### What is left of a path -/

/-- The names that are left are some of the parts that were followed, in their order. -/
theorem follow_sublist {names ps out : List (List Char)} (h : follow names ps = some out) :
    out.reverse.Sublist (names.reverse ++ ps) := by
  induction ps generalizing names with
  | nil =>
    cases h
    rw [List.append_nil]
  | cons p rest ih =>
    unfold follow at h
    split at h
    · cases names with
      | nil => cases h
      | cons inner outer =>
        have hkept : (outer.reverse ++ rest).Sublist (outer.reverse ++ ([inner] ++ (p :: rest))) :=
          ((List.Sublist.refl rest).cons p |>.cons inner).append_left _
        rw [List.reverse_cons, List.append_assoc]
        exact (ih h).trans hkept
    · have hrest := ih h
      rwa [List.reverse_cons, List.append_assoc] at hrest

theorem fromRoot?_sublist {root cs : List Char} {ps : List (List Char)} (h : fromRoot? root cs = some ps) :
    ps.Sublist (parts cs) := by
  unfold fromRoot? below? at h
  split at h
  · split at h
    · split at h
      · cases h
        exact List.drop_sublist _ _
      · cases h
    · cases h
  · cases h
    exact List.Sublist.refl _

theorem intercalate_sublist {α : Type} (separator : List α) {ls ls' : List (List α)} (h : ls.Sublist ls') :
    (separator.intercalate ls).Sublist (separator.intercalate ls') := by
  induction h with
  | slnil => exact List.Sublist.refl _
  | @cons ls ls' a hrest ih =>
    cases ls' with
    | nil => rw [List.sublist_nil.mp hrest, List.intercalate_nil]; exact List.nil_sublist _
    | cons b bs => exact ih.trans (List.intercalate_cons_cons ▸ List.sublist_append_right _ _)
  | @cons_cons ls ls' a hrest ih =>
    cases ls with
    | nil =>
      cases ls' with
      | nil => exact List.Sublist.refl _
      | cons b bs =>
        rw [List.intercalate_singleton, List.intercalate_cons_cons, List.append_assoc]
        exact List.sublist_append_left _ _
    | cons b bs =>
      have hne : ls' ≠ [] := List.ne_nil_of_length_pos (Nat.lt_of_lt_of_le (Nat.succ_pos _) hrest.length_le)
      rw [List.intercalate_cons_cons, List.intercalate_cons_of_ne_nil hne]
      exact ih.append_left _

/-- Nothing is added to a path that is taken. -/
theorem normalize_sublist {root raw path : String} (h : normalize root raw = .ok path) :
    path.toList.Sublist (slashed (Text.trimChars raw.toList)) := by
  obtain ⟨ps, names, hps, hnames, -, rfl⟩ := normalize_ok h
  have hparts : names.reverse.Sublist ((slashed (Text.trimChars raw.toList)).splitOn '/') :=
    ((follow_sublist hnames).trans (fromRoot?_sublist hps)).trans List.filter_sublist
  have hjoined := intercalate_sublist ['/'] hparts
  rwa [List.intercalate_splitOn, ← String.toList_ofList (l := ['/'].intercalate _)] at hjoined

/-! ### Normal paths once more -/

theorem slashed_eq_self {cs : List Char} (h : '\\' ∉ cs) : slashed cs = cs := by
  have hsame : ∀ c ∈ cs, (if c == '\\' then '/' else c) = c := fun c hc =>
    if_neg fun heq : (c == '\\') = true => h (eq_of_beq heq ▸ hc)
  rw [slashed, List.map_congr_left hsame, List.map_id']

section Again
variable {root raw path : String}

theorem cleaned_of_normalize (h : normalize root raw = .ok path) (htrim : Text.trim path = path) :
    cleaned path = path := by
  have hback : '\\' ∉ path.toList := fun hmem => not_mem_slashed _ ((normalize_sublist h).subset hmem)
  rw [← String.toList_inj, toList_cleaned, Text.trim_eq_self_iff.mp htrim, slashed_eq_self hback]

/-- Blanks around a path are taken off and never come back. -/
theorem trim_of_normalize (h : normalize root path = .ok path) : Text.trim path = path := by
  have hlength : path.toList.length ≤ (Text.trimChars path.toList).length := by
    simpa [slashed] using (normalize_sublist h).length_le
  rw [Text.trim_eq_self_iff]
  exact (Text.trimChars_sublist path.toList).eq_of_length_le hlength

theorem normalize_self (h : Contained path) (hclean : cleaned path = path)
    (hdrive : path.toByteArray[1]? ≠ some ':'.toUInt8) : normalize root path = .ok path := by
  have hrelative : ¬ path.startsWith '/' = true := by
    rw [← isAbsolute_toList]
    exact h.relative
  obtain ⟨hcomponents, hnames⟩ := h.components
  have hjoined : "/".intercalate (components path) = path := by
    rw [hcomponents, Text.intercalate_segments]
  have hne : components path ≠ [] := hcomponents ▸ Text.segments_ne_nil path
  obtain ⟨first, rest, hcons⟩ := List.exists_cons_of_ne_nil hne
  rw [normalize_eq_resolve, resolve, hclean]
  simp only [if_neg h.ne_empty, if_neg hdrive, relative?, if_neg hrelative, foldlM_enter_names hnames, List.nil_append]
  rw [hcons] at hjoined ⊢
  simp only [hjoined]

theorem drive_of_normalize (h : normalize root path = .ok path) : path.toByteArray[1]? ≠ some ':'.toUInt8 := by
  have hclean := cleaned_of_normalize h (trim_of_normalize h)
  intro hdrive
  rw [normalize_eq_resolve, resolve, hclean] at h
  simp only [hdrive, if_true] at h
  split at h <;> cases h

/-- A path that was taken is taken again as it stands just if it has no blanks around it and no colon as its second
byte. -/
theorem normalized_again_iff (h : normalize root raw = .ok path) :
    normalize root path = .ok path ↔ Text.trim path = path ∧ path.toByteArray[1]? ≠ some ':'.toUInt8 := by
  constructor
  · exact fun hagain => ⟨trim_of_normalize hagain, drive_of_normalize hagain⟩
  · rintro ⟨htrim, hdrive⟩
    exact normalize_self (normalize_contained h) (cleaned_of_normalize h htrim) hdrive

end Again

/-- Blanks and colons that stand elsewhere do no harm. -/
theorem spaced_again :
    normalize "/srv/app" " /srv/app/lib\\..\\src/ x:y/. " = .ok "src/ x:y" ∧
    normalize "/srv/app" "src/ x:y" = .ok "src/ x:y" := by
  have hfirst : normalize "/srv/app" " /srv/app/lib\\..\\src/ x:y/. " = .ok "src/ x:y" := by decide +kernel
  exact ⟨hfirst, (normalized_again_iff hfirst).mpr ⟨by decide +kernel, by decide +kernel⟩⟩

/-- A step that stays where it is hides a drive letter, and a blank, from the look at the whole path. -/
theorem hiddenDrive_refused :
    normalize "/srv/app" "./C:/x" = .ok "C:/x" ∧
    normalize "/srv/app" "C:/x" = .error (.outsideRoot "C:/x") ∧
    normalize "/srv/app" "./ x" = .ok " x" ∧
    normalize "/srv/app" " x" = .ok "x" := by
  decide +kernel

end CodeGraph.ProjectPath
