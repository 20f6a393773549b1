import Mathlib.Data.List.DropRight
import CodeGraph.Text.Blank
/-!
Trimmed texts. What trimming leaves has no blank at either end, and such a text is left as it is.
-/
namespace CodeGraph.Text

theorem dropEndWhile_eq (p : Char → Bool) (cs : List Char) : dropEndWhile p cs = cs.rdropWhile p := rfl

/-- A text that is not empty and neither begins nor ends with a blank. -/
structure IsTrimmed (s : String) : Prop where
  nonempty : s ≠ ""
  start : ∀ c ∈ s.toList.head?, isBlank c = false
  finish : ∀ c ∈ s.toList.getLast?, isBlank c = false

theorem trimStart_eq_self_iff {cs : List Char} : trimStart cs = cs ↔ ∀ c ∈ cs.head?, isBlank c = false := by
  cases cs with
  | nil => simp [trimStart]
  | cons c cs => simp [trimStart, List.dropWhile_eq_self_iff]

theorem trimEnd_eq_self_iff {cs : List Char} :
    dropEndWhile isBlank cs = cs ↔ ∀ c ∈ cs.getLast?, isBlank c = false := by
  rw [dropEndWhile_eq, List.rdropWhile_eq_self_iff]
  constructor
  · intro h c hc
    obtain ⟨hne, rfl⟩ := List.mem_getLast?_eq_getLast hc
    exact Bool.eq_false_iff.mpr (h hne)
  · intro h hne
    exact Bool.eq_false_iff.mp (h _ (List.getLast_mem_getLast? hne))

/-- Only characters at the ends go. -/
theorem trimChars_eq_self_iff {cs : List Char} : trimChars cs = cs ↔
    (∀ c ∈ cs.head?, isBlank c = false) ∧ ∀ c ∈ cs.getLast?, isBlank c = false := by
  rw [← trimStart_eq_self_iff, ← trimEnd_eq_self_iff]
  constructor
  · intro h
    have hstart : trimStart cs = cs := by
      have hle : (trimChars cs).length ≤ (trimStart cs).length := (List.rdropWhile_prefix isBlank _).length_le
      rw [h] at hle
      exact (List.dropWhile_suffix isBlank).eq_of_length_le hle
    refine ⟨hstart, ?_⟩
    rwa [trimChars, hstart] at h
  · rintro ⟨hstart, hend⟩
    rw [trimChars, hstart, hend]

theorem trimChars_sublist (cs : List Char) : (trimChars cs).Sublist cs :=
  (List.rdropWhile_prefix isBlank (trimStart cs)).sublist.trans (List.dropWhile_sublist isBlank)

theorem trimChars_trimChars (cs : List Char) : trimChars (trimChars cs) = trimChars cs := by
  have hstart : trimStart (trimChars cs) = trimChars cs := by
    rw [trimStart_eq_self_iff]
    intro c hc
    obtain ⟨dropped, hcs⟩ : trimChars cs <+: trimStart cs := List.rdropWhile_prefix isBlank (trimStart cs)
    have hfirst : c ∈ (trimStart cs).head? := by
      rw [← hcs]
      exact List.mem_head?_append_of_mem_head? hc
    exact trimStart_eq_self_iff.mp (List.dropWhile_idempotent isBlank cs) c hfirst
  have hend : dropEndWhile isBlank (trimChars cs) = trimChars cs := List.rdropWhile_idempotent isBlank (trimStart cs)
  rw [trimChars, hstart, hend]

theorem trim_toList (s : String) : (trim s).toList = trimChars s.toList := by
  simp [trim]

theorem trim_eq_self_iff {s : String} : trim s = s ↔ trimChars s.toList = s.toList := by
  rw [← trim_toList, String.toList_inj]

theorem isTrimmed_iff {s : String} : IsTrimmed s ↔ s ≠ "" ∧ trim s = s := by
  rw [trim_eq_self_iff, trimChars_eq_self_iff]
  exact ⟨fun h => ⟨h.nonempty, h.start, h.finish⟩, fun h => ⟨h.1, h.2.1, h.2.2⟩⟩

theorem trimmed?_eq_some_iff {s t : String} : trimmed? s = some t ↔ trim s = t ∧ t ≠ "" := by
  simp only [trimmed?, String.isEmpty_iff]
  split
  · next h => simp only [reduceCtorEq, h, false_iff, not_and, not_not, eq_comm, imp_self]
  · next h =>
    rw [Option.some.injEq, iff_self_and]
    rintro rfl
    exact h

theorem trimmed?_isTrimmed {s t : String} (h : trimmed? s = some t) : IsTrimmed t := by
  obtain ⟨rfl, hne⟩ := trimmed?_eq_some_iff.mp h
  refine isTrimmed_iff.mpr ⟨hne, ?_⟩
  rw [trim_eq_self_iff, trim_toList, trimChars_trimChars]

/-- The trimmed texts are those that are read as they stand. -/
theorem trimmed?_eq_self_iff {s : String} : trimmed? s = some s ↔ IsTrimmed s := by
  rw [trimmed?_eq_some_iff, isTrimmed_iff, and_comm]

end CodeGraph.Text
