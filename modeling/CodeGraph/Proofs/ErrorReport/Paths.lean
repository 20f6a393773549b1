import CodeGraph.ErrorReport.Reference
import CodeGraph.Proofs.Text.Segments
import Mathlib.Tactic.Conv
/-!
Paths that reports refer to. A path is brought into a normal form, and two paths match just if the segments of one are
the last segments of the other; so a match never begins inside a segment.
-/
namespace CodeGraph

namespace Text
variable {marker cs : List Char}

theorem dropMarker_suffix : dropMarker marker cs <:+ cs := by
  fun_induction dropMarker marker cs with
  | case1 => exact List.suffix_rfl
  | case2 cs m ms hfront ih => exact ih.trans (List.drop_suffix _ _)
  | case3 => exact List.suffix_rfl

theorem not_prefix_dropMarker (h : marker ≠ []) : ¬ marker <+: dropMarker marker cs := by
  fun_induction dropMarker marker cs with
  | case1 => exact absurd rfl h
  | case2 cs m ms hfront ih => exact ih h
  | case3 cs m ms hfront => rwa [← List.isPrefixOf_iff_prefix]

theorem dropMarker_of_not_prefix (h : ¬ marker <+: cs) : dropMarker marker cs = cs := by
  unfold dropMarker
  split
  · rfl
  · rw [if_neg (by rwa [List.isPrefixOf_iff_prefix])]

end Text

namespace Reference
open Text (segments segments_eq segments_suffix_iff BeginsInside)

/-! ### The normal form -/

theorem ne_backslash_of_mem {cs : List Char} {c : Char} (hc : c ∈ normalizeChars cs) : c ≠ '\\' := by
  have hmem := (Text.dropMarker_suffix.trans Text.dropMarker_suffix).subset hc
  obtain ⟨d, -, rfl⟩ := List.mem_map.mp hmem
  by_cases hd : d = '\\' <;> simp [hd]

/-- A normal form changes once more only if taking off `./` has brought out another `file://`. -/
theorem normalizeChars_normalizeChars {cs : List Char} (h : ¬ "file://".toList <+: normalizeChars cs) :
    normalizeChars (normalizeChars cs) = normalizeChars cs := by
  have hslashed : ((normalizeChars cs).map fun c => if c == '\\' then '/' else c) = normalizeChars cs := by
    refine (List.map_congr_left fun c hc => ?_).trans (List.map_id _)
    rw [if_neg (by simpa using ne_backslash_of_mem hc), id]
  have hdot : ¬ "./".toList <+: normalizeChars cs := Text.not_prefix_dropMarker (by decide)
  conv_lhs => rw [normalizeChars]
  rw [hslashed, Text.dropMarker_of_not_prefix h, Text.dropMarker_of_not_prefix hdot]

theorem toList_normalize (file : String) : (normalize file).toList = normalizeChars file.toList :=
  String.toList_ofList

/-- A path is matched as its normal form is. -/
theorem pathMatches_normalize {file : String} (h : ¬ "file://".toList <+: (normalize file).toList) (stored : String) :
    pathMatches stored (normalize file) = pathMatches stored file := by
  rw [toList_normalize] at h
  simp only [pathMatches, toList_normalize, normalizeChars_normalizeChars h]

/-! ### Matches -/

theorem endsAfterSlash_iff {whole part : String} :
    endsAfterSlash whole.toList part.toList = true ↔ ∃ front, whole = front ++ "/" ++ part := by
  rw [endsAfterSlash, List.isSuffixOf_iff_suffix]
  constructor
  · rintro ⟨front, hfront⟩
    refine ⟨String.ofList front, ?_⟩
    rw [← String.toList_inj, ← hfront]
    simp
  · rintro ⟨front, rfl⟩
    exact ⟨front.toList, by simp⟩

variable {stored reference : String}

theorem pathMatches_iff :
    pathMatches stored reference = true ↔ normalize stored ≠ "" ∧ normalize reference ≠ "" ∧
      (segments (normalize stored) <:+ segments (normalize reference) ∨
        segments (normalize reference) <:+ segments (normalize stored)) := by
  have hsame : normalize reference = normalize stored ↔ normalize stored = normalize reference := eq_comm
  simp only [pathMatches, ← toList_normalize, Bool.and_eq_true, Bool.or_eq_true, Bool.not_eq_true',
    List.isEmpty_eq_false_iff, ne_eq, String.toList_eq_nil_iff, beq_iff_eq, String.toList_inj, endsAfterSlash_iff,
    segments_suffix_iff]
  rw [hsame, ← or_or_distrib_left, or_assoc, and_assoc]

theorem pathMatches_comm (stored reference : String) : pathMatches stored reference = pathMatches reference stored := by
  rw [Bool.eq_iff_iff, pathMatches_iff, pathMatches_iff, or_comm, and_left_comm]

/-- Two paths match if and only if neither is empty in its normal form and the segments of one normal form are the last
segments of the other. So it does not matter which of them is stored, and none matches where it would begin inside a
segment of the other. -/
theorem pathMatches_iff_segments (stored reference : String) :
    (pathMatches stored reference = true ↔ normalize stored ≠ "" ∧ normalize reference ≠ "" ∧
      (segments (normalize stored) <:+ segments (normalize reference) ∨
        segments (normalize reference) <:+ segments (normalize stored))) ∧
    pathMatches stored reference = pathMatches reference stored ∧
    (pathMatches stored reference = true →
      ¬ BeginsInside (normalize stored) (normalize reference) ∧
      ¬ BeginsInside (normalize reference) (normalize stored)) := by
  refine ⟨pathMatches_iff, pathMatches_comm stored reference, fun hmatch => ?_⟩
  obtain ⟨-, -, hsuffix⟩ := pathMatches_iff.mp hmatch
  exact ⟨fun hinside => hsuffix.elim hinside.not_suffix.1 hinside.not_suffix.2,
    fun hinside => hsuffix.elim hinside.not_suffix.2 hinside.not_suffix.1⟩

/-- Backslashes divide segments too, what is taken off the front is none, and an empty segment is one like any other. The
name of a file does not match a longer name that ends in it. -/
theorem qualified_matched :
    segments (normalize ".\\src\\a.ts") = ["src", "a.ts"] ∧
    segments (normalize "/src/a.ts") = ["", "src", "a.ts"] ∧
    segments (normalize "file:///srv//src/a.ts") = ["", "srv", "", "src", "a.ts"] ∧
    pathMatches ".\\src\\a.ts" "file:///srv//src/a.ts" = true ∧
    ¬ BeginsInside (normalize ".\\src\\a.ts") (normalize "file:///srv//src/a.ts") ∧
    pathMatches "file:///srv//src/a.ts" "/src/a.ts" = true ∧
    BeginsInside (normalize "a.ts") (normalize "src/ba.ts") ∧ pathMatches "a.ts" "src/ba.ts" = false := by
  have hbare : segments (normalize ".\\src\\a.ts") = ["src", "a.ts"] := by
    rw [segments_eq]
    decide +kernel
  have htop : segments (normalize "/src/a.ts") = ["", "src", "a.ts"] := by
    rw [segments_eq]
    decide +kernel
  have hwhole : segments (normalize "file:///srv//src/a.ts") = ["", "srv", "", "src", "a.ts"] := by
    rw [segments_eq]
    decide +kernel
  have hmatch : pathMatches ".\\src\\a.ts" "file:///srv//src/a.ts" = true := by
    refine (pathMatches_iff_segments _ _).1.mpr ⟨by decide +kernel, by decide +kernel, Or.inl ?_⟩
    rw [hbare, hwhole]
    exact ⟨["", "srv", ""], rfl⟩
  have hmatchTop : pathMatches "file:///srv//src/a.ts" "/src/a.ts" = true := by
    refine (pathMatches_iff_segments _ _).1.mpr ⟨by decide +kernel, by decide +kernel, Or.inr ?_⟩
    rw [htop, hwhole]
    exact ⟨["", "srv"], rfl⟩
  have hinside : BeginsInside (normalize "a.ts") (normalize "src/ba.ts") := ⟨"src/", 'b', by decide, by decide +kernel⟩
  refine ⟨hbare, htop, hwhole, hmatch, ((pathMatches_iff_segments _ _).2.2 hmatch).1, hmatchTop, hinside, ?_⟩
  exact Bool.eq_false_iff.mpr fun h => ((pathMatches_iff_segments _ _).2.2 h).1 hinside

end Reference
end CodeGraph
