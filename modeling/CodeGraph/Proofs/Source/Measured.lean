import CodeGraph.Proofs.Number.Magnitude
import CodeGraph.Proofs.Source.Counts
/-!
What is measured of a text is in the range of its metric. Counts are exact or rounded, products and
quotients of them stay far below the largest number, and the ratio is brought into its range where it
is computed.
-/
namespace CodeGraph

/-- What is relied on of the base-two logarithm of a finite number from one up: it is not negative, and no larger than
the exponents that numbers can have. (That it is finite would not do: a product with it could still be infinite.) The
natural logarithm may give anything. -/
structure Logarithms.Sound (logs : Logarithms) : Prop where
  log2_magnitude : ∀ x : Float, x.isFinite = true → 1 ≤ x → IsMagnitude (logs.log2 x)
  log2_le : ∀ x : Float, x.isFinite = true → 1 ≤ x → logs.log2 x ≤ 1024

theorem Logarithms.Sound.log2_below {logs : Logarithms} (h : logs.Sound) {k : Int} {x : Float} (hx : Normal 1 k x) :
    Below 11 (logs.log2 x) :=
  (h.log2_magnitude x hx.below.isFinite hx.one_le).below_of_le (h.log2_le x hx.below.isFinite hx.one_le)

theorem clampMagnitude_of_below {k : Int} {x : Float} (h : Below k x) : clampMagnitude x = x := by
  have hfinite : ¬ (!x.isFinite) = true := by simp [h.isFinite]
  rw [clampMagnitude, if_neg hfinite]
  rcases h.isMagnitude with rfl | hpos
  · exact ite_self 0
  · exact if_pos hpos

namespace SourceMetrics
variable {k : Nat}

theorem volumeOf_below {logs : Logarithms} (h : logs.Sound) {length vocabulary : Nat} (hlength : length < 2 ^ k)
    (hvocabulary : vocabulary < 2 ^ k) (hk : k ≤ 900) : Below (k + 15) (volumeOf logs length vocabulary) := by
  unfold volumeOf
  split
  · next htwo =>
    have hwords := ofNat_pos (by omega) hvocabulary hk
    exact ((ofNat_below hlength hk).mul (h.log2_below hwords) (by omega) (by omega)).mono (by omega)
  · exact Or.inl rfl

theorem normal_two : Normal 1 2 2 := ⟨2 ^ 52, -51, by decide, rfl, by decide, by decide, by decide⟩

theorem difficultyOf_below {distinctOperators distinctOperands operands : Nat} (hoperators : distinctOperators < 2 ^ k)
    (hdistinct : distinctOperands < 2 ^ k) (hoperands : operands < 2 ^ k) (hk : k ≤ 400) :
    Below (2 * k + 9) (difficultyOf distinctOperators distinctOperands operands) := by
  unfold difficultyOf
  split
  · exact Or.inl rfl
  · next hsome =>
    -- there is an operand, so what the operands are divided by is at least one
    have hpairs := (ofNat_below hoperators (by omega)).div normal_two (by omega) (by omega)
    have hdistinct := ofNat_pos (Nat.pos_of_ne_zero hsome) hdistinct (by omega)
    have hrepetition := (ofNat_below hoperands (by omega)).div hdistinct (by omega) (by omega)
    exact (hpairs.mul hrepetition (by omega) (by omega)).mono (by omega)

end SourceMetrics

namespace Source
variable {content : String}

/-- The numbers of tokens of a text, and of different ones. -/
theorem tokens_lt (hsize : content.length < 2 ^ 63) :
    (operators content.toList).length + (operands content.toList).length < 2 ^ 65 ∧
      distinctCount (operators content.toList) + distinctCount (operands content.toList) < 2 ^ 65 ∧
      distinctCount (operators content.toList) < 2 ^ 65 ∧ distinctCount (operands content.toList) < 2 ^ 65 ∧
      (operands content.toList).length < 2 ^ 65 := by
  have hoperators := operators_length_le content.toList
  have hoperands := operands_length_le content.toList
  have hdistinctOperators := distinctCount_le (operators content.toList)
  have hdistinctOperands := distinctCount_le (operands content.toList)
  rw [String.length_toList] at hoperators hoperands
  omega

theorem lines_lt (hsize : content.length < 2 ^ 63) : (Text.lines content).length < 2 ^ 63 := by
  have hlines := Text.linesFrom_length_le [] content.toList
  rw [String.length_toList, List.length_nil, Nat.zero_add] at hlines
  exact Nat.lt_of_le_of_lt hlines hsize

theorem tally_lt (hsize : content.length < 2 ^ 63) :
    (LineTally.ofLines (Text.lines content)).decisions + 1 < 2 ^ 64 ∧
      (LineTally.ofLines (Text.lines content)).cognitive < 2 ^ 127 := by
  have hwithin := LineTally.ofLines_within content
  have hdecisions := hwithin.decisions
  have hsquare : content.length * (content.length + 1) ≤ 2 ^ 63 * 2 ^ 63 :=
    Nat.mul_le_mul (Nat.le_of_lt hsize) hsize
  exact ⟨by omega, Nat.lt_of_le_of_lt (Nat.le_trans hwithin.cognitive hsquare) (by decide)⟩

/-- The text is as any text in memory: it has fewer than `2 ^ 63` bytes, so no more characters. -/
theorem measured_settled {logs : Logarithms} (h : logs.Sound) (hsize : content.length < 2 ^ 63) :
    ∀ v ∈ (measureBy logs content).metrics.values, v.1.clamp v.2 = v.2 := by
  obtain ⟨hlength, hvocabulary, hoperators, hdistinct, hoperands⟩ := tokens_lt hsize
  obtain ⟨hcyclomatic, hcognitive⟩ := tally_lt hsize
  have hvolume := SourceMetrics.volumeOf_below h hlength hvocabulary (by decide)
  have hdifficulty := SourceMetrics.difficultyOf_below hoperators hdistinct hoperands (by decide)
  have hcomplexity := ofNat_below hcyclomatic (by decide)
  simp only [SourceMetrics.values, List.forall_mem_cons]
  refine ⟨?cognitive, ?complexity, ?cyclomatic, ?difficulty, ?effort, ?volume, ?lines, ?maintainability, ?none⟩
  case cognitive => exact clampMagnitude_of_below (ofNat_below hcognitive (by decide))
  case complexity => exact clampMagnitude_of_below hcomplexity
  case cyclomatic => exact clampMagnitude_of_below hcomplexity
  case difficulty => exact clampMagnitude_of_below hdifficulty
  case effort => exact clampMagnitude_of_below (hvolume.mul hdifficulty (by decide) (by decide))
  case volume => exact clampMagnitude_of_below hvolume
  case lines => exact clampMagnitude_of_below (ofNat_below (lines_lt hsize) (by decide))
  case maintainability => exact clampUnit_clampUnit _
  case none => exact fun v hv => absurd hv List.not_mem_nil

end Source
end CodeGraph
