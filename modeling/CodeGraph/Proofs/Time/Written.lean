import Mathlib.Data.List.TakeWhile
import CodeGraph.Proofs.Time.Digits
import CodeGraph.Proofs.Wire.Reading
/-!
Times as they are written and read. Every time that is read names a moment of the calendar, and the text written for
such a moment is read as the same moment.
-/
namespace CodeGraph

/-- A moment of the calendar. Only the last second of a minute may run on as a leap second. -/
structure Time.Valid (t : Time) : Prop where
  date : t.date.isValid = true
  second : t.second < 86400
  nano : t.nano < 2000000000
  leap : 1000000000 ≤ t.nano → t.second % 60 = 59

namespace Date
variable {d d' : Date}

theorem isValid_iff : d.isValid = true ↔ minYear ≤ d.year ∧ d.year ≤ maxYear ∧ 1 ≤ d.month ∧ d.month ≤ 12 ∧
    1 ≤ d.day ∧ d.day ≤ daysInMonth d.year d.month := by
  simp only [isValid, Bool.and_eq_true, decide_eq_true_eq, and_assoc]

theorem daysInMonth_range (y : Int) (month : Nat) : 28 ≤ daysInMonth y month ∧ daysInMonth y month ≤ 31 := by
  unfold daysInMonth
  split <;> (try split) <;> omega

theorem next?_valid (h : d.isValid = true) (hnext : d.next? = some d') : d'.isValid = true := by
  rw [isValid_iff] at h ⊢
  unfold next? at hnext
  split at hnext
  · cases hnext
    dsimp only
    omega
  · split at hnext
    · cases hnext
      have hdays := daysInMonth_range d.year (d.month + 1)
      dsimp only
      omega
    · split at hnext
      · cases hnext
        have hdays := daysInMonth_range (d.year + 1) 1
        dsimp only [minYear, maxYear] at *
        omega
      · cases hnext

theorem prev?_valid (h : d.isValid = true) (hprev : d.prev? = some d') : d'.isValid = true := by
  rw [isValid_iff] at h ⊢
  unfold prev? at hprev
  split at hprev
  · cases hprev
    dsimp only
    omega
  · split at hprev
    · cases hprev
      have hdays := daysInMonth_range d.year (d.month - 1)
      dsimp only
      omega
    · split at hprev
      · cases hprev
        have hdays : 31 ≤ daysInMonth (d.year - 1) 12 := Nat.le_refl 31
        dsimp only [minYear, maxYear] at *
        omega
      · cases hprev

end Date

namespace Time
open CodeGraph.Time.Parser

section Reading
variable {cs rest : List Char}

theorem digitsValue_lt {ds : List Char} (h : ∀ c ∈ ds, c.isDigit = true) : digitsValue ds < 10 ^ ds.length := by
  suffices hfrom : ∀ n, ds.foldl (fun n c => n * 10 + (c.toNat - '0'.toNat)) n < (n + 1) * 10 ^ ds.length by
    have hzero := hfrom 0
    rwa [Nat.zero_add, Nat.one_mul] at hzero
  induction ds with
  | nil => simp
  | cons c ds ih =>
    intro n
    have hc : c.toNat - '0'.toNat < 10 := by
      have hrange : 48 ≤ c.toNat ∧ c.toNat ≤ 57 := by
        simpa [Char.isDigit, UInt32.le_iff_toNat_le] using h c List.mem_cons_self
      have hzero : '0'.toNat = 48 := rfl
      omega
    have hrest := ih (fun d hd => h d (List.mem_cons_of_mem c hd)) (n * 10 + (c.toNat - '0'.toNat))
    calc
      _ < (n * 10 + (c.toNat - '0'.toNat) + 1) * 10 ^ ds.length := hrest
      _ ≤ (n + 1) * 10 * 10 ^ ds.length := Nat.mul_le_mul_right _ (by omega)
      _ = (n + 1) * 10 ^ (c :: ds).length := by rw [List.length_cons, Nat.pow_succ']; exact Nat.mul_assoc _ _ _

/-- A number is less than the power of ten for the digits that were read of it. -/
theorem number_lt {width n : Nat} (h : number (some width) cs = .ok (n, rest)) :
    n < 10 ^ (cs.length - rest.length) ∧ cs.length - rest.length ≤ width := by
  cases cs with
  | nil => cases h
  | cons c cs =>
    simp only [number] at h
    split at h
    · cases h
    · split at h
      · obtain ⟨rfl, rfl⟩ := Prod.mk.inj (Except.ok.inj h)
        generalize hds : ((c :: cs).takeWhile Char.isDigit).take width = ds
        have hprefix : ds.length ≤ (c :: cs).length := by
          rw [← hds]
          exact Nat.le_trans (List.length_take_le' _ _) (List.takeWhile_sublist _).length_le
        have hread : (c :: cs).length - ((c :: cs).drop ds.length).length = ds.length := by
          rw [List.length_drop]
          omega
        have hdigits : ∀ d ∈ ds, d.isDigit = true := by
          rw [← hds]
          exact fun d hd => List.mem_takeWhile_imp (List.mem_of_mem_take hd)
        rw [hread]
        exact ⟨digitsValue_lt hdigits, hds ▸ List.length_take_le _ _⟩
      · cases h

theorem fraction_lt {nano : Nat} (h : fraction cs = .ok (nano, rest)) : nano < 1000000000 := by
  unfold fraction at h
  split at h
  · next cs =>
    split at h
    · next n after hn =>
      obtain ⟨rfl, -⟩ := Prod.mk.inj (Except.ok.inj h)
      obtain ⟨hlt, hnine⟩ := number_lt hn
      calc
        _ < 10 ^ (cs.length - after.length) * 10 ^ (9 - (cs.length - after.length)) :=
          Nat.mul_lt_mul_of_pos_right hlt (Nat.pow_pos (by omega))
        _ = 1000000000 := by rw [← Nat.pow_add, Nat.add_sub_cancel' hnine]
    · cases h
  · cases h
    omega

theorem bounded_range {low high n : Nat} (h : bounded low high cs = .ok (n, rest)) : low ≤ n ∧ n ≤ high := by
  unfold bounded at h
  split at h
  · split at h
    · next hrange =>
      cases h
      exact hrange
    · cases h
  · cases h

theorem clockOffset_minutes {n : Nat} (h : clockOffset cs = .ok (n, rest)) : n % 60 = 0 := by
  obtain ⟨⟨hours, cs⟩, -, h⟩ := bind_ok_inv h
  obtain ⟨⟨minutes, cs⟩, -, h⟩ := bind_ok_inv h
  cases h
  omega

/-- An offset is a whole number of minutes. -/
theorem offset_minutes {shift : Int} (h : offset cs = .ok (shift, rest)) : shift % 60 = 0 := by
  unfold offset at h
  split at h
  · cases h
    rfl
  · split at h
    · cases h
    · split at h
      · cases h
        rfl
      · split at h
        · obtain ⟨⟨n, after⟩, hn, heq⟩ := map_ok_inv h
          cases heq
          have hminutes := clockOffset_minutes hn
          omega
        · split at h
          · obtain ⟨⟨n, after⟩, hn, heq⟩ := map_ok_inv h
            cases heq
            have hminutes := clockOffset_minutes hn
            omega
          · cases h

end Reading

section Shifted
variable {date d : Date} {second nano : Nat} {shift : Int} {t : Time}

/-- Whole minutes do not move the second within its minute. -/
theorem Valid.shifted (h : Time.Valid ⟨date, second, nano⟩) (hminutes : shift % 60 = 0) (hd : d.isValid = true)
    {s : Int}
    (hlow : 0 ≤ s) (hhigh : s < 86400) (hs : s % 86400 = (second - shift) % 86400) : Time.Valid ⟨d, s.toNat, nano⟩ where
  date := hd
  second := by
    dsimp only
    omega
  nano := h.nano
  leap hlate := by
    have hlast : second % 60 = 59 := h.leap hlate
    dsimp only
    omega

/-- A wall-clock time some minutes away from UTC is a moment of the calendar. -/
theorem ofLocal?_valid (h : Time.Valid ⟨date, second, nano⟩) (hday : shift.natAbs < secondsPerDay)
    (hminutes : shift % 60 = 0) (ht : ofLocal? date second nano shift = some t) : t.Valid := by
  have hsecond : second < 86400 := h.second
  simp only [secondsPerDay] at hday
  by_cases hearly : (second : Int) - shift < 0
  · rw [ofLocal?, if_pos hearly] at ht
    obtain ⟨d, hd, rfl⟩ := Option.map_eq_some_iff.mp ht
    simp only [secondsPerDay]
    exact h.shifted hminutes (Date.prev?_valid h.date hd) (by omega) (by omega) (by omega)
  · by_cases hlate : (second : Int) - shift < secondsPerDay
    · rw [ofLocal?, if_neg hearly, if_pos hlate] at ht
      cases ht
      exact h.shifted hminutes h.date (by omega) hlate rfl
    · rw [ofLocal?, if_neg hearly, if_neg hlate] at ht
      obtain ⟨d, hd, rfl⟩ := Option.map_eq_some_iff.mp ht
      simp only [secondsPerDay] at hlate ⊢
      exact h.shifted hminutes (Date.next?_valid h.date hd) (by omega) (by omega) (by omega)

end Shifted

/-- Every time that is read is a moment of the calendar. -/
theorem parse_valid {s : String} {t : Time} (h : parse s = .ok t) : t.Valid := by
  obtain ⟨⟨year, cs⟩, -, h⟩ := bind_ok_inv h
  obtain ⟨cs, -, h⟩ := bind_ok_inv h
  obtain ⟨⟨month, cs⟩, -, h⟩ := bind_ok_inv h
  obtain ⟨cs, -, h⟩ := bind_ok_inv h
  obtain ⟨⟨day, cs⟩, -, h⟩ := bind_ok_inv h
  obtain ⟨cs, -, h⟩ := bind_ok_inv h
  obtain ⟨⟨hour, cs⟩, hhour, h⟩ := bind_ok_inv h
  obtain ⟨cs, -, h⟩ := bind_ok_inv h
  obtain ⟨⟨minute, cs⟩, hminute, h⟩ := bind_ok_inv h
  obtain ⟨cs, -, h⟩ := bind_ok_inv h
  obtain ⟨⟨second, cs⟩, hsecond, h⟩ := bind_ok_inv h
  obtain ⟨⟨nano, cs⟩, hnano, h⟩ := bind_ok_inv h
  obtain ⟨⟨shift, cs⟩, hshift, h⟩ := bind_ok_inv h
  have hhour := (bounded_range hhour).2
  have hminute := (bounded_range hminute).2
  have hsecond := (bounded_range hsecond).2
  have hnano := fraction_lt hnano
  have hshift := offset_minutes hshift
  dsimp only at h
  split at h
  · cases h
  · split at h
    · cases h
    · next hdate =>
      split at h
      · cases h
      · next hday =>
        split at h
        · next t' ht =>
          cases h
          have hwritten : Time.Valid ⟨⟨year, month, day⟩,
              hour * 3600 + minute * 60 + (if second = 60 then 59 else second),
              nano + (if second = 60 then nanosPerSecond else 0)⟩ := by
            refine ⟨by simpa using hdate, ?_, ?_, ?_⟩ <;> dsimp only [nanosPerSecond] <;> split <;> omega
          exact ofLocal?_valid hwritten (Nat.lt_of_not_le hday) hshift ht
        · cases h

theorem mark_self {c : Char} (h : Text.isBlank c = false) (cs : List Char) : mark c (c :: cs) = .ok cs := by
  have hstart : Text.trimStart (c :: cs) = c :: cs := List.dropWhile_cons_of_neg (Bool.eq_false_iff.mp h)
  rw [mark, hstart]
  exact if_pos rfl

theorem separator_mark (cs : List Char) : separator ('T' :: cs) = .ok cs := rfl

theorem ofLocal?_utc {date : Date} {second nano : Nat} (h : second < 86400) :
    ofLocal? date second nano 0 = some ⟨date, second, nano⟩ := by
  have hlate : (second : Int) - 0 < secondsPerDay := by
    simp only [secondsPerDay]
    omega
  rw [ofLocal?, if_neg (by omega), if_pos hlate]
  simp

theorem fractionChars_digitsEnd (nano : Nat) : DigitsEnd (fractionChars nano ++ ['Z']) := by
  unfold fractionChars
  split
  · exact .cons rfl _
  · split
    · exact .cons rfl _
    · split <;> exact .cons rfl _

/-- The second of the minute as it is written. -/
def writtenSecond (t : Time) : Nat := t.second % 60 + if t.nano ≥ nanosPerSecond then 1 else 0

namespace Valid
variable {t : Time}

/-- A leap second is written as the sixtieth, and no other second is. -/
theorem writtenSecond_cases (h : t.Valid) : t.nano < nanosPerSecond ∧ t.writtenSecond = t.second % 60 ∨
    nanosPerSecond ≤ t.nano ∧ t.second % 60 = 59 ∧ t.writtenSecond = 60 := by
  by_cases hlate : nanosPerSecond ≤ t.nano
  · have hlast : t.second % 60 = 59 := h.leap hlate
    exact Or.inr ⟨hlate, hlast, by rw [writtenSecond, if_pos hlate, hlast]⟩
  · exact Or.inl ⟨Nat.lt_of_not_le hlate, by rw [writtenSecond, if_neg hlate, Nat.add_zero]⟩

theorem writtenSecond_le (h : t.Valid) : t.writtenSecond ≤ 60 := by
  have hcases := h.writtenSecond_cases
  omega

/-- The hour, the minute, the second and the fraction that are written make up the moment again. -/
theorem ofLocal?_written (h : t.Valid) : ofLocal? t.date
    (t.second / 3600 * 3600 + t.second / 60 % 60 * 60 + if t.writtenSecond = 60 then 59 else t.writtenSecond)
    (t.nano % nanosPerSecond + if t.writtenSecond = 60 then nanosPerSecond else 0) 0 = some t := by
  have hunits : t.second / 3600 * 3600 + t.second / 60 % 60 * 60 + t.second % 60 = t.second := by
    have hsecond := h.second
    omega
  rcases h.writtenSecond_cases with ⟨hregular, hwritten⟩ | ⟨hlate, hlast, hwritten⟩
  · have hinside : ¬ t.second % 60 = 60 := by omega
    rw [hwritten, if_neg hinside, if_neg hinside, hunits, ofLocal?_utc h.second, Nat.add_zero,
      Nat.mod_eq_of_lt hregular]
  · have hnanos : t.nano % nanosPerSecond + nanosPerSecond = t.nano := by
      have htwo := h.nano
      simp only [nanosPerSecond] at hlate ⊢
      omega
    rw [hwritten, if_pos rfl, if_pos rfl, ← hlast, hunits, ofLocal?_utc h.second, hnanos]

end Valid

/-- The text of a moment of the calendar is read as that moment. -/
theorem parse_render {t : Time} (h : t.Valid) : parse t.render = .ok t := by
  obtain ⟨hminYear, hmaxYear, hminMonth, hmaxMonth, hminDay, hmaxDay⟩ := Date.isValid_iff.mp h.date
  have hdays := Date.daysInMonth_range t.date.year t.date.month
  have hsecond := h.second
  have hwritten := h.writtenSecond_le
  have hnano : t.nano % nanosPerSecond < 1000000000 := Nat.mod_lt t.nano (show 0 < 1000000000 by omega)
  have hoffset : offset (Text.trimStart ['Z']) = .ok (0, []) := rfl
  have hdone : (Text.trimStart []).isEmpty = true := rfl
  have hdate : (Date.mk t.date.year t.date.month t.date.day).isValid = true := h.date
  have hshift : ¬ (0 : Int).natAbs ≥ secondsPerDay := by simp [secondsPerDay]
  have hfold : t.second % 60 + (if t.nano ≥ nanosPerSecond then 1 else 0) = t.writtenSecond := rfl
  simp only [parse, render, String.toList_ofList, chars, List.append_assoc, List.cons_append, hfold]
  rw [ok_bind (year_yearChars hminYear hmaxYear (.cons rfl _))]
  dsimp only
  rw [ok_bind (mark_self rfl _), ok_bind (bounded_padDigits hminMonth hmaxMonth (by omega) (.cons rfl _))]
  dsimp only
  rw [ok_bind (mark_self rfl _), ok_bind (bounded_padDigits hminDay (by omega) (by omega) (.cons rfl _))]
  dsimp only
  rw [ok_bind (separator_mark _), ok_bind (bounded_padDigits (by omega) (by omega) (by omega) (.cons rfl _))]
  dsimp only
  rw [ok_bind (mark_self rfl _), ok_bind (bounded_padDigits (by omega) (by omega) (by omega) (.cons rfl _))]
  dsimp only
  rw [ok_bind (mark_self rfl _),
    ok_bind (bounded_padDigits (by omega) hwritten (by omega) (fractionChars_digitsEnd _))]
  dsimp only
  rw [ok_bind (fraction_fractionChars hnano (.cons rfl _) (by simp))]
  dsimp only
  rw [ok_bind hoffset]
  simp only [hdone, hdate, hshift, Bool.not_true, Bool.false_eq_true, if_false, h.ofLocal?_written]
  rfl

end Time
end CodeGraph
