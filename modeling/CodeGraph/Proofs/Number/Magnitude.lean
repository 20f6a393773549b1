import CodeGraph.Proofs.Number.Range
import CodeGraph.Proofs.Number.Rounding
/-!
Numbers that are not negative, by the place of their highest bit. A product takes the places of both
factors and at most one more, a quotient by a number from one up no more than one; so what is
computed from counts stays far below the largest number.
-/
namespace CodeGraph
open Float.Model Float.Model.UnpackedFloat Rounding

/-- A number below `2 ^ k`, not negative; a zero has no sign. -/
def Below (k : Int) (x : Float) : Prop :=
  x.toModel.unpack = .zero .positive ∨
    ∃ m e h, x.toModel.unpack = .finite .positive m e h ∧ totalExponent m e ≤ k

/-- A number from `2 ^ (j - 1)` up and below `2 ^ k`, with all bits of a mantissa. -/
def Normal (j k : Int) (x : Float) : Prop :=
  ∃ m e h, x.toModel.unpack = .finite .positive m e h ∧ m.log2 = 52 ∧
    j ≤ totalExponent m e ∧ totalExponent m e ≤ k

theorem Below.mono {j k : Int} {x : Float} (h : Below j x) (hle : j ≤ k) : Below k x := by
  rcases h with hzero | ⟨m, e, hm, hx, htotal⟩
  · exact Or.inl hzero
  · exact Or.inr ⟨m, e, hm, hx, Int.le_trans htotal hle⟩

theorem Normal.below {j k : Int} {x : Float} (h : Normal j k x) : Below k x := by
  obtain ⟨m, e, hm, hx, -, -, htotal⟩ := h
  exact Or.inr ⟨m, e, hm, hx, htotal⟩

theorem Normal.mono {i j k l : Int} {x : Float} (h : Normal j k x) (hij : i ≤ j) (hkl : k ≤ l) : Normal i l x := by
  obtain ⟨m, e, hm, hx, hbits, hlow, hhigh⟩ := h
  exact ⟨m, e, hm, hx, hbits, Int.le_trans hij hlow, Int.le_trans hhigh hkl⟩

/-! ### What is rounded -/

theorem below_of_zero (k : Int) : Below k (.ofModel (.pack (.zero .positive))) := Or.inl rfl

theorem below_of_rounded {m : Nat} {e k : Int} (a : Accuracy) (h : totalExponent m e ≤ k) (hlow : -1022 ≤ k)
    (hhigh : k ≤ 971) :
    Below (k + 1) (.ofModel (.pack (roundWithAccuracy Format.binary64 .positive m e a))) := by
  rcases roundWithAccuracy_le .positive m e a with hzero | ⟨m', e', hm, hround, htotal⟩
  · rw [hzero]
    exact below_of_zero (k + 1)
  · have hexponent : e' ≤ 971 := by
      rw [totalExponent] at htotal
      omega
    rw [hround]
    rcases unpack_pack_le .positive hm hexponent with hpack | ⟨n, f, hn, hpack, hplace⟩
    · exact Or.inl hpack
    · exact Or.inr ⟨n, f, hn, hpack, by omega⟩

theorem normal_of_rounded {m : Nat} {e j k : Int} (a : Accuracy) (hbits : 52 ≤ m.log2) (hj : j ≤ totalExponent m e)
    (hk : totalExponent m e ≤ k) (hlow : -1021 ≤ j) (hhigh : k ≤ 971) :
    Normal j (k + 1) (.ofModel (.pack (roundWithAccuracy Format.binary64 .positive m e a))) := by
  obtain ⟨m', e', hm, hround, hlog, hge, hle⟩ := roundWithAccuracy_normal .positive a hbits (Int.le_trans hlow hj)
  have htotal : totalExponent m' e' = 53 + e' := by
    rw [totalExponent, hlog]
    rfl
  rw [hround]
  exact ⟨m', e', hm, unpack_pack_normal .positive hm hlog (by omega) (by omega), hlog, by omega, by omega⟩

/-! ### Products and quotients -/

theorem totalExponent_mul_bounds {m n : Nat} (hm : 0 < m) (hn : 0 < n) (e f : Int) :
    totalExponent m e + totalExponent n f - 1 ≤ totalExponent (m * n) (e + f) ∧
      totalExponent (m * n) (e + f) ≤ totalExponent m e + totalExponent n f := by
  have := log2_mul_bounds hm hn
  simp only [totalExponent]
  omega

theorem Below.mul {a b : Int} {x y : Float} (hx : Below a x) (hy : Below b y) (hlow : -1022 ≤ a + b)
    (hhigh : a + b ≤ 971) : Below (a + b + 1) (x * y) := by
  have hmul : x * y = .ofModel (.pack (UnpackedFloat.mul Format.binary64 x.toModel.unpack y.toModel.unpack)) := rfl
  rw [hmul]
  rcases hx with hx | ⟨m, e, hm, hx, hxk⟩ <;> rcases hy with hy | ⟨n, f, hn, hy, hyk⟩ <;> rw [hx, hy]
  · exact below_of_zero _
  · exact below_of_zero _
  · exact below_of_zero _
  · have := (totalExponent_mul_bounds hm hn e f).2
    exact below_of_rounded .exact (by omega) hlow hhigh

theorem Normal.mul {a b c d : Int} {x y : Float} (hx : Normal a b x) (hy : Normal c d y) (hlow : -1020 ≤ a + c)
    (hhigh : b + d ≤ 971) : Normal (a + c - 1) (b + d + 1) (x * y) := by
  obtain ⟨m, e, hm, hx, hxbits, hxa, hxb⟩ := hx
  obtain ⟨n, f, hn, hy, -, hyc, hyd⟩ := hy
  have hmul : x * y = .ofModel (.pack (UnpackedFloat.mul Format.binary64 x.toModel.unpack y.toModel.unpack)) := rfl
  have hbits := (log2_mul_bounds hm hn).1
  have htotal := totalExponent_mul_bounds hm hn e f
  rw [hmul, hx, hy]
  exact normal_of_rounded .exact (by omega) (by omega) (by omega) (by omega) hhigh

theorem log2_shiftLeft {m : Nat} (hm : 0 < m) (s : Nat) : (m <<< s).log2 = m.log2 + s := by
  have hne : m * 2 ^ s ≠ 0 := (Nat.mul_pos hm (Nat.two_pow_pos s)).ne'
  rw [Nat.shiftLeft_eq, Nat.log2_eq_iff hne, Nat.pow_add, Nat.add_right_comm, Nat.pow_add]
  exact ⟨Nat.mul_le_mul_right _ (Nat.log2_self_le hm.ne'),
    Nat.mul_lt_mul_of_pos_right Nat.lt_log2_self (Nat.two_pow_pos s)⟩

/-- The quotient has bits enough for its place, and its highest bit stands where the places of the two numbers tell,
or one place higher. -/
theorem totalExponent_divCore_le {m n : Nat} {e f : Int} (hm : 0 < m) (hn : 0 < n) (hf : 1 ≤ totalExponent n f) :
    totalExponent (divCore Format.binary64 m e n f).1 (divCore Format.binary64 m e n f).2.1 ≤
      max (totalExponent m e) (-1073) := by
  simp only [divCore, targetExponent_eq]
  generalize ht : min (e - f) (max (totalExponent m e - totalExponent n f - 53) (-1074)) = t
  have hquotient : m <<< (e - f - t).toNat / n ≤ m <<< (e - f - t).toNat / 2 ^ n.log2 :=
    Nat.div_le_div_left (Nat.log2_self_le hn.ne') (Nat.two_pow_pos _)
  have hlog := log2_mono hquotient
  rw [log2_div_two_pow, log2_shiftLeft hm] at hlog
  simp only [totalExponent] at ht hf ⊢
  omega

theorem Below.div {a b : Int} {x y : Float} (hx : Below a x) (hy : Normal 1 b y) (hlow : -1022 ≤ a)
    (hhigh : a ≤ 971) : Below (a + 1) (x / y) := by
  have hdiv : x / y = .ofModel (.pack (UnpackedFloat.div Format.binary64 x.toModel.unpack y.toModel.unpack)) := rfl
  obtain ⟨n, f, hn, hy, -, hone, -⟩ := hy
  rw [hdiv, hy]
  rcases hx with hx | ⟨m, e, hm, hx, hxa⟩ <;> rw [hx]
  · exact below_of_zero _
  · have hle := totalExponent_divCore_le (e := e) hm hn hone
    exact below_of_rounded _ (Int.le_trans hle (by omega)) hlow hhigh

/-! ### Counts -/

/-- A natural number that a mantissa can hold is brought to its place without loss. -/
theorem normal_of_small {n : Nat} (hpos : 0 < n) (hsmall : n < 2 ^ 53) :
    Normal (n.log2 + 1) (n.log2 + 1 + 1) n.toUInt64.toFloat := by
  have hlog : n.log2 < 53 := (Nat.log2_lt hpos.ne').mpr hsmall
  have hn : n.toUInt64.toNat = n := Nat.mod_eq_of_lt (Nat.lt_trans hsmall (by decide))
  have htarget : Format.binary64.targetExponent (totalExponent n 0) = (n.log2 : Int) - 52 := by
    rw [targetExponent_eq, totalExponent]
    omega
  have hshift : (0 - ((n.log2 : Int) - 52)).toNat = 52 - n.log2 := by omega
  have hround : UnpackedFloat.ofUInt64 Format.binary64 n.toUInt64 =
      roundWithAccuracy Format.binary64 .positive (n <<< (52 - n.log2)) (0 - (52 - n.log2 : Nat)) .exact := by
    rw [UnpackedFloat.ofUInt64, hn, UnpackedFloat.ofNat, UnpackedFloat.ofInt, UnpackedFloat.normalize,
      Int.compare_eq_gt.mpr (by omega)]
    simp only [UnpackedFloat.round, decreaseExponent, Int.toNat_natCast, htarget, hshift]
  have hbits := log2_shiftLeft hpos (52 - n.log2)
  have hplace : totalExponent (n <<< (52 - n.log2)) (0 - (52 - n.log2 : Nat)) = n.log2 + 1 := by
    rw [totalExponent, hbits]
    omega
  change Normal _ _ (.ofModel (.pack (UnpackedFloat.ofUInt64 Format.binary64 n.toUInt64)))
  rw [hround]
  exact normal_of_rounded .exact (by omega) hplace.ge hplace.le (by omega) (by omega)

/-- A large natural number is given bits enough before it is rounded. -/
theorem ofScientific_natural {n : Nat} (hpos : 0 < n) :
    ∃ m e, 52 ≤ m.log2 ∧ totalExponent m e = n.log2 + 1 ∧
      UnpackedFloat.ofScientific Format.binary64 n 0 = roundWithAccuracy Format.binary64 .positive m e .exact := by
  have hbits : ((n <<< 53) * 10 ^ 0).log2 = n.log2 + 53 := by
    rw [Nat.pow_zero, Nat.mul_one, log2_shiftLeft hpos]
  refine ⟨(n <<< 53) * 10 ^ 0, -53 + 0, by omega, ?_, ?_⟩
  · rw [totalExponent, hbits]
    omega
  · have hsmallest : ¬ (0 : Int) < -((2 ^ Format.binary64.exponentBits : Int) + n.log2) := by
      have : (2 : Int) ^ Format.binary64.exponentBits = 2048 := rfl
      omega
    rw [UnpackedFloat.ofScientific, dif_neg hpos.ne', if_neg (by decide), if_neg hsmallest, if_pos (by decide)]
    rfl

theorem normal_of_large {n : Nat} (hpos : 0 < n) (hbound : n.log2 ≤ 900) :
    Normal (n.log2 + 1) (n.log2 + 1 + 1) (.ofModel (Float.Model.ofScientific n 0)) := by
  obtain ⟨m, e, hbits, hplace, hround⟩ := ofScientific_natural hpos
  rw [Float.Model.ofScientific, hround]
  exact normal_of_rounded .exact hbits hplace.ge hplace.le (by omega) (by omega)

theorem normal_one : Normal 1 1 1 := ⟨2 ^ 52, -52, by decide, rfl, by decide, by decide, by decide⟩

theorem ofNat_normal {n : Nat} (hpos : 0 < n) (hbound : n.log2 ≤ 900) :
    Normal (n.log2 + 1) (n.log2 + 4) (.ofNat n) := by
  have hof : Float.ofNat n = Float.ofScientific n false 0 := rfl
  rw [hof, Float.ofScientific]
  split
  · next hsmall =>
    -- the power of ten by which a small number is multiplied is one
    have hproduct := (normal_of_small hpos hsmall.1).mul normal_one (by omega) (by omega)
    exact hproduct.mono (by omega) (by omega)
  · exact (normal_of_large hpos hbound).mono (by omega) (by omega)

theorem ofNat_pos {n k : Nat} (hpos : 0 < n) (h : n < 2 ^ k) (hk : k ≤ 900) : Normal 1 (k + 3) (.ofNat n) := by
  have hlog : n.log2 < k := (Nat.log2_lt hpos.ne').mpr h
  exact (ofNat_normal hpos (by omega)).mono (by omega) (by omega)

theorem ofNat_below {n k : Nat} (h : n < 2 ^ k) (hk : k ≤ 900) : Below (k + 3) (.ofNat n) := by
  rcases Nat.eq_zero_or_pos n with rfl | hpos
  · exact Or.inl rfl
  · exact (ofNat_pos hpos h hk).below

/-! ### Order -/

theorem unpack_mantissa_lt {x : Float.Model} {s : Sign} {m : Nat} {e : Int} {hm : 0 < m}
    (h : x.unpack = .finite s m e hm) : m < 2 ^ 53 := by
  have hbits : (@unpackMantissa Format.binary64 x.toBits.toBitVec).toNat < 2 ^ 52 := BitVec.isLt _
  rw [Float.Model.unpack, UnpackedFloat.unpack] at h
  split at h
  · split at h <;> cases h
  · split at h
    · split at h
      · cases h
      · cases h
        omega
    · cases h
      rw [implicitBit_append]
      omega

theorem Sign.ofBitVec_eq_positive {b : BitVec 1} (h : Sign.ofBitVec b = .positive) : b = 0#1 := by
  rw [Sign.ofBitVec] at h
  split at h
  · assumption
  · cases h

/-- The zero without a sign has no bit set, so there is only one. -/
theorem eq_zero_of_unpack {x : Float} (h : x.toModel.unpack = .zero .positive) : x = 0 := by
  obtain ⟨⟨⟨b⟩, hvalid⟩⟩ := x
  have hparts : @unpackSign Format.binary64 b = 0#1 ∧ @unpackExponent Format.binary64 b = 0#11 ∧
      @unpackMantissa Format.binary64 b = 0#52 := by
    simp only [Float.Model.unpack, UnpackedFloat.unpack] at h
    split at h
    · split at h <;> cases h
    · split at h
      · next hexponent =>
        split at h
        · next hmantissa => exact ⟨Sign.ofBitVec_eq_positive (by injection h), hexponent, hmantissa⟩
        · cases h
      · cases h
  have hb : b = 0#64 := by
    obtain ⟨hsign, hexponent, hmantissa⟩ := hparts
    have hbound : b.toNat < 2 ^ 64 := b.isLt
    have hsign : b.toNat / 2 ^ 63 % 2 ^ 1 = 0 := by
      simpa [unpackSign, Nat.shiftRight_eq_div_pow] using congrArg BitVec.toNat hsign
    have hexponent : b.toNat / 2 ^ 52 % 2 ^ 11 = 0 := by
      simpa [unpackExponent, Nat.shiftRight_eq_div_pow] using congrArg BitVec.toNat hexponent
    have hmantissa : b.toNat % 2 ^ 52 = 0 := by
      simpa [unpackMantissa] using congrArg BitVec.toNat hmantissa
    apply BitVec.eq_of_toNat_eq
    rw [BitVec.toNat_zero]
    omega
  subst hb
  rfl

theorem Below.isFinite {k : Int} {x : Float} (h : Below k x) : x.isFinite = true := by
  change x.toModel.unpack.isFinite = true
  rcases h with hx | ⟨m, e, hm, hx, -⟩ <;> rw [hx] <;> rfl

theorem Below.isMagnitude {k : Int} {x : Float} (h : Below k x) : IsMagnitude x := by
  rcases h with hx | ⟨m, e, hm, hx, -⟩
  · exact Or.inl (eq_zero_of_unpack hx)
  · have hzero : (0 : Float).toModel.unpack = .zero .positive := rfl
    refine Or.inr (lt_iff_compare.mpr ?_)
    rw [hzero, hx]
    rfl

theorem isLE_then_iff {e f : Int} {m n : Nat} :
    ((compare e f).then (compare m n)).isLE = true ↔ e < f ∨ e = f ∧ m ≤ n := by
  rw [Ordering.isLE_then_iff_or, Int.compare_eq_lt, Std.compare_eq_iff_eq, Nat.isLE_compare]

theorem Normal.one_le {k : Int} {x : Float} (h : Normal 1 k x) : 1 ≤ x := by
  obtain ⟨m, e, hm, hx, hbits, hplace, -⟩ := h
  have hone : (1 : Float).toModel.unpack = .finite .positive (2 ^ 52) (-52) (by decide) := rfl
  have hmantissa : 2 ^ 52 ≤ m := (Nat.le_log2 hm.ne').mp hbits.ge
  rw [totalExponent, hbits] at hplace
  rw [le_iff_compare, hone, hx]
  exact isLE_then_iff.mpr (by omega)

/-- What is at most `2 ^ 10` is below `2 ^ 11`. -/
theorem IsMagnitude.below_of_le {x : Float} (h : IsMagnitude x) (hle : x ≤ 1024) : Below 11 x := by
  have hbound : (1024 : Float).toModel.unpack = .finite .positive (2 ^ 52) (-42) (by decide) := rfl
  rcases h with rfl | hpos
  · exact Or.inl rfl
  · have hzero : (0 : Float).toModel.unpack = .zero .positive := rfl
    rw [lt_iff_compare, hzero] at hpos
    rw [le_iff_compare, hbound] at hle
    cases hx : x.toModel.unpack with
    | notANumber => rw [hx] at hle; cases hle
    | infinity s =>
      rw [hx] at hle hpos
      cases s with
      | negative => cases hpos
      | positive => cases hle
    | zero s => rw [hx] at hpos; cases hpos
    | finite s m e hm =>
      rw [hx] at hle hpos
      cases s with
      | negative => cases hpos
      | positive =>
        refine Or.inr ⟨m, e, hm, hx, ?_⟩
        have hplace := isLE_then_iff.mp hle
        have hbits : m.log2 ≤ 52 := log2_lt_of_lt (unpack_mantissa_lt hx)
        rw [totalExponent]
        omega

end CodeGraph
