import Mathlib
/-!
Where rounding leaves the highest bit of a number: where it was or one place higher. Rounding drops
bits from the end of a mantissa twice, before and after it decides about the last one that stays;
packing keeps what is rounded, unless it is too large, and mends an exponent that is too small.
-/
namespace CodeGraph.Rounding
open Float.Model Float.Model.UnpackedFloat

theorem log2_mono {m n : Nat} (h : m ≤ n) : m.log2 ≤ n.log2 := by
  simpa only [Nat.log2_eq_log_two] using Nat.log_mono_right h

theorem log2_div_two_pow (m s : Nat) : (m / 2 ^ s).log2 = m.log2 - s := by
  simp only [Nat.log2_eq_log_two, Nat.log_div_base_pow]

theorem log2_succ_le (m : Nat) : (m + 1).log2 ≤ m.log2 + 1 := by
  have hle : (m + 1).log2 ≤ (2 ^ (m.log2 + 1)).log2 := log2_mono Nat.lt_log2_self
  rwa [Nat.log2_two_pow] at hle

theorem log2_mul_bounds {m n : Nat} (hm : 0 < m) (hn : 0 < n) :
    m.log2 + n.log2 ≤ (m * n).log2 ∧ (m * n).log2 ≤ m.log2 + n.log2 + 1 := by
  have hne : m * n ≠ 0 := (Nat.mul_pos hm hn).ne'
  constructor
  · rw [Nat.le_log2 hne, Nat.pow_add]
    exact Nat.mul_le_mul (Nat.log2_self_le hm.ne') (Nat.log2_self_le hn.ne')
  · have hlt : m * n < 2 ^ (m.log2 + 1 + (n.log2 + 1)) := by
      rw [Nat.pow_add]
      exact Nat.mul_lt_mul'' Nat.lt_log2_self Nat.lt_log2_self
    have := (Nat.log2_lt hne).mpr hlt
    omega

/-- Bits that are dropped leave the highest one where it is, if any are left. -/
theorem totalExponent_div {m s : Nat} (h : m / 2 ^ s ≠ 0) (e : Int) :
    totalExponent (m / 2 ^ s) (e + s) = totalExponent m e := by
  have hpow : 2 ^ s ≤ m := by
    by_contra hlt
    exact h (Nat.div_eq_of_lt (Nat.lt_of_not_le hlt))
  have hm : m ≠ 0 := (Nat.lt_of_lt_of_le (Nat.two_pow_pos s) hpow).ne'
  have hs : s ≤ m.log2 := (Nat.le_log2 hm).mpr hpow
  rw [totalExponent, totalExponent, log2_div_two_pow]
  omega

theorem targetExponent_eq (k : Int) : Format.binary64.targetExponent k = max (k - 53) (-1074) := rfl

/-- The number of bits that a mantissa has in excess of what its place allows. -/
def surplus (m : Nat) (e : Int) : Nat := (Format.binary64.targetExponent (totalExponent m e) - e).toNat

theorem surplus_eq (m : Nat) (e : Int) : (surplus m e : Int) = max ((m.log2 : Int) - 52) (max (-1074 - e) 0) := by
  rw [surplus, targetExponent_eq, totalExponent]
  omega

theorem shiftRight_mantissa (em : ExtendedMantissa) (s : Nat) : (em >>> s).mantissa = em.mantissa / 2 ^ s := by
  induction s with
  | zero => exact (Nat.div_one _).symm
  | succ s ih =>
    have hstep : (em >>> (s + 1)).mantissa = (em >>> s).mantissa / 2 := rfl
    rw [hstep, ih, Nat.div_div_eq_div_mul, Nat.pow_succ]

theorem ofMantissaAndAccuracy_mantissa (m : Nat) (a : Accuracy) :
    (ExtendedMantissa.ofMantissaAndAccuracy m a).mantissa = m := by
  cases a with
  | exact => rfl
  | inexact o => cases o <;> rfl

theorem shiftToTargetExponent_mantissa (m : Nat) (e : Int) (a : Accuracy) :
    (shiftToTargetExponent Format.binary64 m e a).1.mantissa = m / 2 ^ surplus m e := by
  have hshift : (shiftToTargetExponent Format.binary64 m e a).1 =
      ExtendedMantissa.ofMantissaAndAccuracy m a >>> surplus m e := rfl
  rw [hshift, shiftRight_mantissa, ofMantissaAndAccuracy_mantissa]

theorem roundedMantissa_bounds (em : ExtendedMantissa) :
    em.mantissa ≤ em.roundedMantissa ∧ em.roundedMantissa ≤ em.mantissa + 1 := by
  obtain ⟨m, roundBit, stickyBit⟩ := em
  cases roundBit <;> cases stickyBit <;>
    simp [ExtendedMantissa.roundedMantissa, ExtendedMantissa.accuracy, Accuracy.roundToNearestEven]
  omega

/-- A rounded number is given by the mantissa that the decision about the last bit leaves. -/
theorem roundWithAccuracy_eq (sign : Sign) (m : Nat) (e : Int) (a : Accuracy) :
    ∃ r : Nat, m / 2 ^ surplus m e ≤ r ∧ r ≤ m / 2 ^ surplus m e + 1 ∧
      roundWithAccuracy Format.binary64 sign m e a =
        if h : r / 2 ^ surplus r (e + surplus m e) = 0 then .zero sign
        else .finite sign (r / 2 ^ surplus r (e + surplus m e))
          (e + surplus m e + surplus r (e + surplus m e)) (Nat.pos_of_ne_zero h) := by
  have hbounds := roundedMantissa_bounds (shiftToTargetExponent Format.binary64 m e a).1
  rw [shiftToTargetExponent_mantissa] at hbounds
  refine ⟨_, hbounds.1, hbounds.2, ?_⟩
  have hlast := shiftToTargetExponent_mantissa
    (shiftToTargetExponent Format.binary64 m e a).1.roundedMantissa (e + surplus m e) .exact
  simp only [← hlast]
  rfl

/-- The decision about the last bit raises the highest one by no more than one place. -/
theorem totalExponent_rounded_le {m r : Nat} {e : Int} (h : r ≤ m / 2 ^ surplus m e + 1) :
    totalExponent r (e + surplus m e) ≤ max (totalExponent m e + 1) (-1073) := by
  have hsurplus := surplus_eq m e
  have hlog : r.log2 ≤ m.log2 - surplus m e + 1 := by
    rw [← log2_div_two_pow]
    exact Nat.le_trans (log2_mono h) (log2_succ_le _)
  rw [totalExponent, totalExponent]
  rcases Nat.lt_or_ge m.log2 (surplus m e) with hall | hsome
  · -- every bit is dropped, so at most the lowest one of all is left
    have hzero : m / 2 ^ surplus m e = 0 := Nat.div_eq_of_lt <|
      Nat.lt_of_lt_of_le Nat.lt_log2_self (Nat.pow_le_pow_right (by decide) hall)
    rw [hzero] at h
    have hone : r.log2 ≤ Nat.log2 1 := log2_mono h
    have : Nat.log2 1 = 0 := rfl
    omega
  · omega

theorem roundWithAccuracy_le (sign : Sign) (m : Nat) (e : Int) (a : Accuracy) :
    roundWithAccuracy Format.binary64 sign m e a = .zero sign ∨
      ∃ m' e' h, roundWithAccuracy Format.binary64 sign m e a = .finite sign m' e' h ∧
        totalExponent m' e' ≤ max (totalExponent m e + 1) (-1073) := by
  obtain ⟨r, -, hle, hround⟩ := roundWithAccuracy_eq sign m e a
  rw [hround]
  split
  · exact Or.inl rfl
  · next hrest =>
    refine Or.inr ⟨_, _, Nat.pos_of_ne_zero hrest, rfl, ?_⟩
    rw [totalExponent_div hrest]
    exact totalExponent_rounded_le hle

/-- A mantissa with bits enough is rounded to one with all bits that the format has. -/
theorem roundWithAccuracy_normal (sign : Sign) {m : Nat} {e : Int} (a : Accuracy) (hbits : 52 ≤ m.log2)
    (hplace : -1021 ≤ totalExponent m e) :
    ∃ m' e' h, roundWithAccuracy Format.binary64 sign m e a = .finite sign m' e' h ∧ m'.log2 = 52 ∧
      totalExponent m e ≤ totalExponent m' e' ∧ totalExponent m' e' ≤ totalExponent m e + 1 := by
  obtain ⟨r, hge, hle, hround⟩ := roundWithAccuracy_eq sign m e a
  have hfirst : surplus m e = m.log2 - 52 := by
    have := surplus_eq m e
    rw [totalExponent] at hplace
    omega
  have hlow : 52 ≤ r.log2 := by
    have := log2_mono hge
    rw [log2_div_two_pow] at this
    omega
  have hhigh : r.log2 ≤ 53 := by
    have := Nat.le_trans (log2_mono hle) (log2_succ_le _)
    rw [log2_div_two_pow] at this
    omega
  have hlast : surplus r (e + surplus m e) = r.log2 - 52 := by
    have := surplus_eq r (e + surplus m e)
    rw [totalExponent] at hplace
    omega
  have hbitsLeft : (r / 2 ^ surplus r (e + surplus m e)).log2 = 52 := by
    rw [log2_div_two_pow]
    omega
  have hrest : r / 2 ^ surplus r (e + surplus m e) ≠ 0 := by
    intro hzero
    rw [hzero] at hbitsLeft
    simp at hbitsLeft
  rw [dif_neg hrest] at hround
  refine ⟨_, _, _, hround, hbitsLeft, ?_⟩
  rw [totalExponent_div hrest, totalExponent, totalExponent]
  rw [totalExponent] at hplace
  omega

/-! ### Packing -/

theorem unpackSign_packComponents {spec : Format} (s : Sign) (e : BitVec spec.exponentBits)
    (m : BitVec spec.mantissaBitsWithoutImplicit) : unpackSign (packComponents spec s e m) = s.toBitVec := by
  ext i hi
  obtain rfl : i = 0 := by omega
  simp [unpackSign, packComponents, BitVec.getLsbD_append, BitVec.getElem_append]

theorem ofBitVec_toBitVec (s : Sign) : Sign.ofBitVec s.toBitVec = s := by cases s <;> rfl

theorem implicitBit_append (m : BitVec 52) : (1#1 ++ m).toNat = 2 ^ 52 + m.toNat := by
  rw [BitVec.toNat_append, ← Nat.shiftLeft_add_eq_or_of_lt m.isLt]
  simp [Nat.shiftLeft_eq]

/-- The bits of a number tell it, unless they are those of an infinity or of no number. -/
theorem unpack_packComponents (s : Sign) (exponent : BitVec 11) (m : BitVec 52) (h : exponent ≠ -1#11) :
    UnpackedFloat.unpack Format.binary64 (packComponents Format.binary64 s exponent m) =
      if exponent = 0#11 then
        if hm : m.toNat = 0 then .zero s
        else .finite s m.toNat (-1074) (Nat.pos_of_ne_zero hm)
      else .finite s (2 ^ 52 + m.toNat) (exponent.toNat - 1075) (by omega) := by
  simp only [UnpackedFloat.unpack, unpackMantissa_packComponents, unpackExponent_packComponents,
    unpackSign_packComponents, ofBitVec_toBitVec, if_neg h]
  by_cases hexponent : exponent = 0#11
  · subst hexponent
    rw [if_pos rfl, if_pos rfl]
    by_cases hm : m = 0#52
    · subst hm
      rfl
    · have hne : m.toNat ≠ 0 := fun hzero => hm (BitVec.eq_of_toNat_eq hzero)
      rw [dif_neg hm, dif_neg hne]
      rfl
  · rw [if_neg hexponent, if_neg hexponent]
    simp only [implicitBit_append]
    rfl

theorem log2_lt_of_lt {m k : Nat} (h : m < 2 ^ (k + 1)) : m.log2 ≤ k := by
  have hle : m.log2 ≤ (2 ^ (k + 1) - 1).log2 := log2_mono (by omega)
  have hne : 2 ^ (k + 1) - 1 ≠ 0 := by
    have := Nat.one_lt_two_pow (Nat.succ_ne_zero k)
    omega
  have := (Nat.log2_lt hne).mpr (Nat.sub_lt (Nat.two_pow_pos (k + 1)) (by decide))
  omega

theorem pack_finite (s : Sign) {m : Nat} {e : Int} (hm : 0 < m) (he : e ≤ 971) :
    UnpackedFloat.pack Format.binary64 (.finite s m e hm) =
      packComponents Format.binary64 s (BitVec.ofNat 11 (if m.log2 = 52 then (e + 1075).toNat else 0))
        (BitVec.ofNat 52 m) := by
  have hbias : (e + Format.binary64.exponentBias + (52 : Nat)).toNat = (e + 1075).toNat := by
    have : (Format.binary64.exponentBias : Int) = 1023 := rfl
    omega
  have hbits : Format.binary64.mantissaBits = 53 := rfl
  have hfits : ¬ 2 ^ 11 ≤ (e + 1075).toNat + 1 := by omega
  simp only [UnpackedFloat.pack, hbias, hbits, if_neg hfits]
  by_cases hnormal : m.log2 = 52
  · rw [if_pos (by omega), if_pos hnormal]
  · rw [if_neg (by omega), if_neg hnormal]

theorem unpack_pack_finite (s : Sign) {m : Nat} {e : Int} (hm : 0 < m) (he : e ≤ 971) :
    (Float.Model.pack (.finite s m e hm)).unpack =
      if m.log2 = 52 ∧ -1074 ≤ e then .finite s (2 ^ 52 + m % 2 ^ 52) e (by omega)
      else if h : m % 2 ^ 52 = 0 then .zero s
      else .finite s (m % 2 ^ 52) (-1074) (Nat.pos_of_ne_zero h) := by
  have hexponent : (if m.log2 = 52 then (e + 1075).toNat else 0) < 2047 := by
    split <;> omega
  change UnpackedFloat.unpack _ (UnpackedFloat.pack Format.binary64 _) = _
  rw [pack_finite s hm he]
  generalize hb : (if m.log2 = 52 then (e + 1075).toNat else 0) = b at hexponent
  have hnat : (BitVec.ofNat 11 b).toNat = b := by
    rw [BitVec.toNat_ofNat]
    omega
  have hnotOnes : BitVec.ofNat 11 b ≠ -1#11 := by
    intro h
    have : b = 2047 := hnat.symm.trans (congrArg BitVec.toNat h)
    omega
  have hzero : BitVec.ofNat 11 b = 0#11 ↔ b = 0 := by
    rw [← BitVec.toNat_inj, hnat, BitVec.toNat_zero]
  rw [unpack_packComponents s _ _ hnotOnes]
  simp only [hzero, hnat, BitVec.toNat_ofNat]
  by_cases hnormal : m.log2 = 52 ∧ -1074 ≤ e
  · rw [if_pos hnormal.1] at hb
    have hback : (b : Int) - 1075 = e := by omega
    simp only [if_pos hnormal, if_neg (show b ≠ 0 by omega), hback]
  · have : b = 0 := by
      split at hb <;> omega
    simp only [if_neg hnormal, if_pos this]

theorem unpack_pack_le (s : Sign) {m : Nat} {e : Int} (hm : 0 < m) (he : e ≤ 971) :
    (Float.Model.pack (.finite s m e hm)).unpack = .zero s ∨
      ∃ m' e' h, (Float.Model.pack (.finite s m e hm)).unpack = .finite s m' e' h ∧
        totalExponent m' e' ≤ max (totalExponent m e) (-1022) := by
  have hmod : m % 2 ^ 52 < 2 ^ 52 := Nat.mod_lt _ (by decide)
  rw [unpack_pack_finite s hm he]
  split
  · next hnormal =>
    refine Or.inr ⟨_, _, by omega, rfl, ?_⟩
    have : (2 ^ 52 + m % 2 ^ 52).log2 ≤ 52 := log2_lt_of_lt (by omega)
    rw [totalExponent, totalExponent]
    omega
  · split
    · exact Or.inl rfl
    · next hrest =>
      refine Or.inr ⟨_, _, Nat.pos_of_ne_zero hrest, rfl, ?_⟩
      have : (m % 2 ^ 52).log2 ≤ 51 := log2_lt_of_lt hmod
      rw [totalExponent]
      omega

theorem unpack_pack_normal (s : Sign) {m : Nat} {e : Int} (hm : 0 < m) (hbits : m.log2 = 52) (hlow : -1074 ≤ e)
    (he : e ≤ 971) : (Float.Model.pack (.finite s m e hm)).unpack = .finite s m e hm := by
  have hbounds := (Nat.log2_eq_iff hm.ne').mp hbits
  have hwhole : 2 ^ 52 + m % 2 ^ 52 = m := by omega
  rw [unpack_pack_finite s hm he, if_pos ⟨hbits, hlow⟩]
  simp only [hwhole]

end CodeGraph.Rounding
