/-!
The segments of a path are what its slashes divide. Joined again they give back the path, and those of one path are the
last ones of another just if the text of the other ends in it right after a slash.
-/
namespace CodeGraph.Text

/-- What stands between the slashes of a path, be it empty or not. -/
def segments (path : String) : List String := (path.split '/').toList.map (·.copy)

theorem segments_eq (path : String) : segments path = (path.toList.splitOn '/').map String.ofList :=
  String.toList_split_char

theorem segments_ne_nil (path : String) : segments path ≠ [] := by
  rw [segments_eq]
  exact mt List.map_eq_nil_iff.mp (List.splitOn_ne_nil _ _)

theorem segments_slash (front part : String) : segments (front ++ "/" ++ part) = segments front ++ segments part := by
  have hlist : (front ++ "/" ++ part).toList = front.toList ++ '/' :: part.toList := by simp
  rw [segments_eq, segments_eq, segments_eq, hlist, List.splitOn_append_cons_self, List.map_append]

theorem intercalate_segments (path : String) : "/".intercalate (segments path) = path := by
  have hlist : (segments path).map String.toList = path.toList.splitOn '/' := by
    rw [segments_eq, List.map_map]
    exact (List.map_congr_left fun _ _ => String.toList_ofList).trans (List.map_id _)
  rw [← String.toList_inj, String.toList_intercalate, hlist]
  exact List.intercalate_splitOn '/'

variable {part whole : String}

/-- The segments of one path end those of another just if it ends the other's text right after a slash. -/
theorem segments_suffix_iff :
    segments part <:+ segments whole ↔ whole = part ∨ ∃ front, whole = front ++ "/" ++ part := by
  constructor
  · rintro ⟨above, habove⟩
    have hwhole : whole = "/".intercalate (above ++ segments part) := by rw [habove, intercalate_segments]
    -- Joining puts no slash after an empty list: the two are then the same path.
    by_cases hnone : above = []
    · refine Or.inl ?_
      rw [hwhole, hnone, List.nil_append, intercalate_segments]
    · refine Or.inr ⟨"/".intercalate above, ?_⟩
      rw [hwhole, String.intercalate_append_of_ne_nil hnone (segments_ne_nil part), intercalate_segments]
  · rintro (rfl | ⟨front, rfl⟩)
    · exact List.suffix_rfl
    · rw [segments_slash]
      exact List.suffix_append _ _

/-- One path ends the text of another, but begins there inside a segment: what stands before it is no slash. -/
def BeginsInside (part whole : String) : Prop := ∃ (front : String) (c : Char), c ≠ '/' ∧ whole = front.push c ++ part

theorem length_le_of_segments_suffix (h : segments part <:+ segments whole) : part.length ≤ whole.length := by
  obtain rfl | ⟨front, rfl⟩ := segments_suffix_iff.mp h
  · exact Nat.le_refl _
  · rw [String.length_append]
    exact Nat.le_add_left _ _

/-- A path that begins inside a segment of another one is the shorter of the two, and no slash divides it off. -/
theorem BeginsInside.not_suffix (h : BeginsInside part whole) :
    ¬ segments part <:+ segments whole ∧ ¬ segments whole <:+ segments part := by
  obtain ⟨front, c, hc, rfl⟩ := h
  have hlonger : part.length < (front.push c ++ part).length := by
    rw [String.length_append, String.length_push]
    omega
  refine ⟨fun hsuffix => ?_, fun hsuffix => ?_⟩
  · obtain hsame | ⟨above, habove⟩ := segments_suffix_iff.mp hsuffix
    · rw [hsame] at hlonger
      exact Nat.lt_irrefl _ hlonger
    · have hlist : front.toList ++ c :: part.toList = above.toList ++ '/' :: part.toList := by
        simpa using congrArg String.toList habove
      exact hc (List.cons.inj (List.append_inj_right' hlist rfl)).1
  · exact absurd (length_le_of_segments_suffix hsuffix) (Nat.not_le.mpr hlonger)

end CodeGraph.Text
