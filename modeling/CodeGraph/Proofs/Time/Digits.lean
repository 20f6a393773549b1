import Mathlib.Algebra.Group.Nat.Defs
import CodeGraph.Time.Parser
import CodeGraph.Time.Printer
/-!
Numbers in a written time. What is written in decimal digits, perhaps with zeros before them, is read back as the same
number, and the reader stops where the digits end.
-/
namespace CodeGraph

theorem Text.isBlank_of_isDigit {c : Char} (h : c.isDigit = true) : isBlank c = false := by
  have hrange : 48 ≤ c.toNat ∧ c.toNat ≤ 57 := by
    simpa [Char.isDigit, UInt32.le_iff_toNat_le] using h
  simp only [isBlank, Bool.or_eq_false_iff, Bool.and_eq_false_iff, decide_eq_false_iff_not, beq_eq_false_iff_ne]
  omega

namespace Time.Parser

theorem digitsValue_eq (ds : List Char) : digitsValue ds = Nat.ofDigitChars 10 ds 0 := by
  simp only [digitsValue, Nat.ofDigitChars, Nat.mul_comm]

end Time.Parser

open Time.Parser

section Padded
variable (width n : Nat)

theorem isDigit_of_mem_padDigits {c : Char} (h : c ∈ padDigits width n) : c.isDigit = true := by
  rcases List.mem_append.mp h with hzero | hdigit
  · rw [List.eq_of_mem_replicate hzero]
    rfl
  · exact Nat.isDigit_of_mem_toDigits (by omega) (by omega) hdigit

theorem digitsValue_padDigits : digitsValue (padDigits width n) = n := by
  rw [digitsValue_eq, padDigits, Nat.ofDigitChars_append, Nat.ofDigitChars_replicate_zero, Nat.mul_zero,
    Nat.ofDigitChars_ten_toDigits]

theorem length_padDigits {width n : Nat} (hwidth : 0 < width) (h : n < 10 ^ width) :
    (padDigits width n).length = width := by
  have hlen : (Nat.toDigits 10 n).length ≤ width := (Nat.length_toDigits_le_iff (by omega) hwidth).mpr h
  simp only [padDigits, List.length_append, List.length_replicate]
  omega

theorem padDigits_ne_nil : padDigits width n ≠ [] := by
  simp [padDigits, Nat.toDigits_ne_nil]

end Padded

/-- What follows on a number does not begin with a digit. -/
def DigitsEnd (rest : List Char) : Prop := ∀ c ∈ rest.head?, c.isDigit = false

theorem DigitsEnd.cons {c : Char} (h : c.isDigit = false) (cs : List Char) : DigitsEnd (c :: cs) := by
  intro d hd
  cases hd
  exact h

namespace Time.Parser
variable {ds rest : List Char}

theorem takeWhile_digits (hds : ∀ c ∈ ds, c.isDigit = true) (hrest : DigitsEnd rest) :
    (ds ++ rest).takeWhile Char.isDigit = ds := by
  have hnone : rest.takeWhile Char.isDigit = [] := by
    cases rest with
    | nil => rfl
    | cons c cs => exact List.takeWhile_cons_of_neg (Bool.eq_false_iff.mp (hrest c rfl))
  rw [List.takeWhile_append_of_pos hds, hnone, List.append_nil]

/-- A number of not too many digits is read to its end. -/
theorem number_digits {width : Option Nat} (hne : ds ≠ []) (hds : ∀ c ∈ ds, c.isDigit = true) (hrest : DigitsEnd rest)
    (hwidth : ∀ w ∈ width, ds.length ≤ w) (hfit : digitsValue ds < 2 ^ 63) :
    number width (ds ++ rest) = .ok (digitsValue ds, rest) := by
  obtain ⟨d, ds', rfl⟩ := List.exists_cons_of_ne_nil hne
  have hrun := takeWhile_digits hds hrest
  have hd : d.isDigit = true := hds d List.mem_cons_self
  have hdrop : (d :: ds' ++ rest).drop (d :: ds').length = rest := List.drop_left
  rw [List.cons_append] at hrun hdrop ⊢
  simp only [number, hd, Bool.not_true, Bool.false_eq_true, if_false, hrun]
  cases width with
  | none =>
    simp only [hdrop]
    exact if_pos hfit
  | some w =>
    have htake : (d :: ds').take w = d :: ds' := List.take_of_length_le (hwidth w rfl)
    simp only [htake, hdrop]
    exact if_pos hfit

/-- A written number that fits its width is read back. -/
theorem number_padDigits {w width n : Nat} (hwidth : 0 < width) (hw : width ≤ w) (hfit : n < 10 ^ width)
    (hlimit : n < 2 ^ 63) (hrest : DigitsEnd rest) :
    number (some w) (padDigits width n ++ rest) = .ok (n, rest) := by
  have hvalue := digitsValue_padDigits width n
  have hlength := length_padDigits hwidth hfit
  rw [number_digits (padDigits_ne_nil width n) (fun c => isDigit_of_mem_padDigits width n) hrest
    (fun w' hw' => by cases hw'; omega) (by rwa [hvalue]), hvalue]

theorem trimStart_padDigits (width n : Nat) (rest : List Char) :
    Text.trimStart (padDigits width n ++ rest) = padDigits width n ++ rest := by
  obtain ⟨d, ds, hds⟩ := List.exists_cons_of_ne_nil (padDigits_ne_nil width n)
  have hd : d.isDigit = true := isDigit_of_mem_padDigits width n (hds ▸ List.mem_cons_self)
  rw [hds, List.cons_append, Text.trimStart,
    List.dropWhile_cons_of_neg (Bool.eq_false_iff.mp (Text.isBlank_of_isDigit hd))]

theorem bounded_padDigits {low high n : Nat} (hlow : low ≤ n) (hhigh : n ≤ high) (hfit : n < 100)
    (hrest : DigitsEnd rest) : bounded low high (padDigits 2 n ++ rest) = .ok (n, rest) := by
  rw [bounded, trimStart_padDigits, number_padDigits (by omega) (Nat.le_refl 2) hfit (by omega) hrest]
  exact if_pos ⟨hlow, hhigh⟩

section Year
variable {cs : List Char} {n : Nat}

theorem year_minus (h : number none cs = .ok (n, rest)) (hn : n < 2147483648) :
    year ('-' :: cs) = .ok (-(n : Int), rest) := by
  have hstart : Text.trimStart ('-' :: cs) = '-' :: cs := rfl
  simp only [year, hstart, h, Except.map]
  exact if_pos (by omega)

theorem year_plus (h : number none cs = .ok (n, rest)) (hn : n < 2147483648) : year ('+' :: cs) = .ok (n, rest) := by
  have hstart : Text.trimStart ('+' :: cs) = '+' :: cs := rfl
  simp only [year, hstart, h, Except.map]
  exact if_pos (by omega)

theorem year_digits {d : Char} (hd : d.isDigit = true) (h : number (some 4) (d :: cs) = .ok (n, rest))
    (hn : n < 2147483648) : year (d :: cs) = .ok (n, rest) := by
  have hstart : Text.trimStart (d :: cs) = d :: cs :=
    List.dropWhile_cons_of_neg (Bool.eq_false_iff.mp (Text.isBlank_of_isDigit hd))
  unfold year
  rw [hstart]
  split
  · next heq => cases heq; cases hd
  · next heq => cases heq; cases hd
  · simp only [h, Except.map]
    exact if_pos (by omega)

/-- A year of up to four digits stands without a sign, any other after one. -/
theorem year_yearChars {y : Int} (hlow : Date.minYear ≤ y) (hhigh : y ≤ Date.maxYear) (hrest : DigitsEnd rest) :
    year (yearChars y ++ rest) = .ok (y, rest) := by
  simp only [Date.minYear, Date.maxYear] at hlow hhigh
  have hlong : number none (padDigits 4 y.natAbs ++ rest) = .ok (y.natAbs, rest) := by
    have hvalue := digitsValue_padDigits 4 y.natAbs
    rw [number_digits (padDigits_ne_nil 4 _) (fun c => isDigit_of_mem_padDigits 4 _) hrest (by simp)
      (by rw [hvalue]; omega), hvalue]
  unfold yearChars
  split
  · next hshort =>
    have hnumber : number (some 4) (padDigits 4 y.toNat ++ rest) = .ok (y.toNat, rest) :=
      number_padDigits (by omega) (Nat.le_refl 4) (by omega) (by omega) hrest
    obtain ⟨d, ds, hds⟩ := List.exists_cons_of_ne_nil (padDigits_ne_nil 4 y.toNat)
    have hd : d.isDigit = true := isDigit_of_mem_padDigits 4 y.toNat (hds ▸ List.mem_cons_self)
    rw [hds, List.cons_append] at hnumber ⊢
    rw [year_digits hd hnumber (by omega), Int.toNat_of_nonneg hshort.1]
  · split
    · next hneg =>
      have hvalue : -(y.natAbs : Int) = y := by omega
      rw [List.cons_append, year_minus hlong (by omega), hvalue]
    · next hpos =>
      have hvalue : (y.natAbs : Int) = y := by omega
      rw [List.cons_append, year_plus hlong (by omega), hvalue]

end Year

/-- The places of a fraction beyond the last that is written are zero. -/
theorem fraction_padDigits {width n : Nat} (hwidth : 0 < width) (hnine : width ≤ 9) (hfit : n < 10 ^ width)
    (hrest : DigitsEnd rest) :
    fraction ('.' :: (padDigits width n ++ rest)) = .ok (n * 10 ^ (9 - width), rest) := by
  have hlimit : n < 2 ^ 63 := by
    have hle : 10 ^ width ≤ 10 ^ 9 := Nat.pow_le_pow_right (by omega) hnine
    omega
  have hrestEnd : rest.dropWhile Char.isDigit = rest := by
    cases rest with
    | nil => rfl
    | cons c cs => exact List.dropWhile_cons_of_neg (Bool.eq_false_iff.mp (hrest c rfl))
  have hread : (padDigits width n ++ rest).length - rest.length = width := by
    rw [List.length_append, length_padDigits hwidth hfit]
    omega
  simp only [fraction, number_padDigits hwidth hnine hfit hlimit hrest, hrestEnd, hread]
  rfl

theorem fraction_fractionChars {nano : Nat} (h : nano < 1000000000) (hrest : DigitsEnd rest)
    (hdot : rest.head? ≠ some '.') : fraction (fractionChars nano ++ rest) = .ok (nano, rest) := by
  unfold fractionChars
  split
  · next hzero =>
    subst hzero
    cases rest with
    | nil => rfl
    | cons c cs =>
      unfold fraction
      split
      · next heq => cases heq; exact absurd rfl hdot
      · rfl
  · split
    · next hmillis =>
      rw [List.cons_append, fraction_padDigits (by omega) (by omega) (by omega) hrest]
      congr 2
      omega
    · split
      · next hmicros =>
        rw [List.cons_append, fraction_padDigits (by omega) (by omega) (by omega) hrest]
        congr 2
        omega
      · rw [List.cons_append, fraction_padDigits (by omega) (by omega) (by omega) hrest]
        congr 2
        omega

end Time.Parser
end CodeGraph
