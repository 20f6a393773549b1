import Mathlib
import CodeGraph.Source.Measure
/-!
What is counted in a text is bounded by its length: occurrences of a pattern, lines, decisions and
open braces. Only the decisions weighted by their nesting may be as many as its square.
-/
namespace CodeGraph

namespace Text

theorem occurrencesFrom_length_le (p : Pattern) (skip : Nat) (before : Option Char) (cs : List Char) :
    (occurrencesFrom p skip before cs).length ≤ cs.length := by
  induction cs generalizing skip before with
  | nil => exact Nat.le_refl 0
  | cons c cs ih =>
    cases skip with
    | succ n => exact Nat.le_succ_of_le (ih n (some c))
    | zero =>
      simp only [occurrencesFrom]
      split
      · exact Nat.le_succ_of_le (ih 0 (some c))
      · exact Nat.succ_le_succ (ih _ (some c))

theorem occurrences_length_le (p : Pattern) (cs : List Char) : (occurrences p cs).length ≤ cs.length :=
  occurrencesFrom_length_le p 0 none cs

theorem linesFrom_length_le (rev cs : List Char) : (linesFrom rev cs).length ≤ rev.length + cs.length := by
  fun_induction linesFrom rev cs with
  | case1 rev hrev => exact Nat.zero_le _
  | case2 rev hrev => exact List.length_pos_iff.mpr fun hnil => hrev (by rw [hnil]; rfl)
  | case3 rev rest ih =>
    simp only [List.length_cons, List.length_nil] at ih ⊢
    omega
  | case4 rev c rest _ ih =>
    simp only [List.length_cons] at ih ⊢
    omega

theorem closeLine_length_le (rev : List Char) : (closeLine rev).length ≤ rev.length := by
  fun_cases closeLine rev with
  | case1 rest =>
    rw [List.length_reverse, List.length_cons]
    exact Nat.le_succ _
  | case2 => exact Nat.le_of_eq List.length_reverse

/-- No character belongs to two lines. -/
theorem linesFrom_sum_le (rev cs : List Char) :
    ((linesFrom rev cs).map List.length).sum ≤ rev.length + cs.length := by
  fun_induction linesFrom rev cs with
  | case1 rev hrev => exact Nat.zero_le _
  | case2 rev hrev => simp
  | case3 rev rest ih =>
    have := closeLine_length_le rev
    simp only [List.map_cons, List.sum_cons, List.length_cons, List.length_nil] at ih ⊢
    omega
  | case4 rev c rest _ ih =>
    simp only [List.length_cons] at ih ⊢
    omega

end Text

namespace Source

theorem codeFrom_length_le (place : Place) (begun : Bool) (cs : List Char) :
    (codeFrom place begun cs).length ≤ cs.length := by
  fun_induction codeFrom place begun cs <;> grind

theorem decisions_le (code : List Char) : decisions code ≤ code.length := Text.occurrences_length_le decision code

theorem operands_length_le (cs : List Char) : (operands cs).length ≤ cs.length :=
  Nat.le_trans (List.length_filter_le _ _) (Text.occurrences_length_le operand cs)

theorem operators_length_le (cs : List Char) : (operators cs).length ≤ 2 * cs.length := by
  have hwords : ((Text.occurrences operand cs).filter keywords.contains).length ≤ cs.length :=
    Nat.le_trans (List.length_filter_le _ _) (Text.occurrences_length_le operand cs)
  have hsigns := Text.occurrences_length_le operator cs
  rw [operators, List.length_append]
  omega

theorem distinctCount_le (tokens : List (List Char)) : distinctCount tokens ≤ tokens.length := by
  have hsize := Std.ExtTreeSet.size_insertMany_list_le (t := (∅ : StringSet)) (l := tokens.map String.ofList)
  rw [Std.ExtTreeSet.size_empty, List.length_map, Nat.zero_add] at hsize
  exact hsize

end Source

namespace LineTally

/-- What can be counted in that many characters. -/
structure Within (n : Nat) (t : LineTally) : Prop where
  decisions : t.decisions ≤ n
  cognitive : t.cognitive ≤ n * (n + 1)
  depth : t.depth ≤ n

theorem Within.mono {n k : Nat} {t : LineTally} (h : t.Within n) (hle : n ≤ k) : t.Within k where
  decisions := Nat.le_trans h.decisions hle
  cognitive := Nat.le_trans h.cognitive (Nat.mul_le_mul hle (Nat.succ_le_succ hle))
  depth := Nat.le_trans h.depth hle

theorem addBrace_spec (t : LineTally) (c : Char) : (t.addBrace c).decisions = t.decisions ∧
    (t.addBrace c).cognitive = t.cognitive ∧ (t.addBrace c).depth ≤ t.depth + 1 := by
  unfold addBrace
  split
  · exact ⟨rfl, rfl, Nat.le_refl _⟩
  · split
    · exact ⟨rfl, rfl, Nat.le_trans (Nat.sub_le _ _) (Nat.le_succ _)⟩
    · exact ⟨rfl, rfl, Nat.le_succ _⟩

theorem foldl_addBrace_spec (code : List Char) (t : LineTally) : (code.foldl addBrace t).decisions = t.decisions ∧
    (code.foldl addBrace t).cognitive = t.cognitive ∧ (code.foldl addBrace t).depth ≤ t.depth + code.length := by
  induction code generalizing t with
  | nil => exact ⟨rfl, rfl, Nat.le_refl _⟩
  | cons c code ih =>
    obtain ⟨hdecisions, hcognitive, hdepth⟩ := t.addBrace_spec c
    obtain ⟨ihdecisions, ihcognitive, ihdepth⟩ := ih (t.addBrace c)
    rw [List.foldl_cons, List.length_cons]
    exact ⟨ihdecisions.trans hdecisions, ihcognitive.trans hcognitive, by omega⟩

theorem Within.addCode {n : Nat} {t : LineTally} (h : t.Within n) (code : List Char) :
    (t.addCode code).Within (n + code.length) := by
  have hfound := Source.decisions_le code
  obtain ⟨hdecisions, hcognitive, hdepth⟩ := foldl_addBrace_spec code
    { t with
      codeLines := t.codeLines + 1
      decisions := t.decisions + Source.decisions code
      cognitive := t.cognitive + Source.decisions code * (1 + t.depth) }
  refine ⟨hdecisions ▸ ?_, hcognitive ▸ ?_, Nat.le_trans hdepth ?_⟩
  · exact Nat.add_le_add h.decisions hfound
  · calc t.cognitive + Source.decisions code * (1 + t.depth)
        ≤ n * (n + 1) + code.length * (n + 1) :=
          Nat.add_le_add h.cognitive (Nat.mul_le_mul hfound (by have := h.depth; omega))
      _ = (n + code.length) * (n + 1) := (Nat.add_mul _ _ _).symm
      _ ≤ (n + code.length) * (n + code.length + 1) := Nat.mul_le_mul_left _ (by omega)
  · exact Nat.add_le_add_right h.depth _

theorem Within.addLine {n : Nat} {t : LineTally} (h : t.Within n) (line : List Char) :
    (t.addLine line).Within (n + line.length) := by
  have hcode := Source.codeFrom_length_le .code false line
  have hlong : (if line.length > longLine then { t with longLines := t.longLines + 1 } else t).Within n := by
    split
    · exact ⟨h.decisions, h.cognitive, h.depth⟩
    · exact h
  have hstep : t.addLine line =
      if Source.isCode line then
        (if line.length > longLine then { t with longLines := t.longLines + 1 } else t).addCode
          (Source.codePortion line)
      else if line.length > longLine then { t with longLines := t.longLines + 1 } else t := rfl
  rw [hstep]
  split
  · exact (hlong.addCode _).mono (Nat.add_le_add_left hcode n)
  · exact hlong.mono (Nat.le_add_right n _)

theorem Within.foldl_addLine (lines : List (List Char)) {n : Nat} {t : LineTally} (h : t.Within n) :
    (lines.foldl LineTally.addLine t).Within (n + (lines.map List.length).sum) := by
  induction lines generalizing n t with
  | nil => exact h
  | cons line lines ih =>
    rw [List.foldl_cons, List.map_cons, List.sum_cons, ← Nat.add_assoc]
    exact ih (h.addLine line)

theorem ofLines_within (content : String) : (ofLines (Text.lines content)).Within content.length := by
  have hempty : ({} : LineTally).Within 0 := ⟨Nat.le_refl 0, Nat.zero_le _, Nat.le_refl 0⟩
  refine (hempty.foldl_addLine (Text.lines content)).mono ?_
  have hsum := Text.linesFrom_sum_le [] content.toList
  rw [List.length_nil, Nat.zero_add] at hsum
  rw [Nat.zero_add]
  exact hsum

end LineTally
end CodeGraph
