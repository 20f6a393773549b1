import CodeGraph.Proofs.Number.Magnitude
/-!
Numbers from a power of two up, infinity included. A sum and a quotient of such numbers are again such numbers, so that
what is computed from a count that is not zero is not lost to rounding, however large the count is.
-/
namespace CodeGraph
open Float.Model Float.Model.UnpackedFloat Rounding

/-- A number from `2 ^ (j - 1)` up. -/
def AtLeast (j : Int) (x : Float) : Prop := x.toModel.unpack = .infinity .positive ∨ ∃ k, Normal j k x

/-- No number at all has no place in an order; this one has, and no minus sign. -/
def Unsigned (x : Float) : Prop :=
  x.toModel.unpack = .zero .positive ∨ x.toModel.unpack = .infinity .positive ∨
    ∃ m e h, x.toModel.unpack = .finite .positive m e h

theorem unsigned_zero : Unsigned 0 := Or.inl rfl

theorem AtLeast.unsigned {j : Int} {x : Float} (h : AtLeast j x) : Unsigned x := by
  rcases h with hx | ⟨k, m, e, hm, hx, -⟩
  · exact Or.inr (Or.inl hx)
  · exact Or.inr (Or.inr ⟨m, e, hm, hx⟩)

theorem AtLeast.pos {j : Int} {x : Float} (h : AtLeast j x) : 0 < x := by
  have hzero : (0 : Float).toModel.unpack = .zero .positive := rfl
  rw [lt_iff_compare, hzero]
  rcases h with hx | ⟨k, m, e, hm, hx, -⟩
  · rw [hx]
    rfl
  · rw [hx]
    rfl

/-! ### What is rounded -/

theorem unpack_pack_infinity (s : Sign) : (Float.Model.pack (.infinity s)).unpack = .infinity s := by
  cases s <;> rfl

/-- A number that is too large is packed as infinity. -/
theorem unpack_pack_large (s : Sign) {m : Nat} {e : Int} (hm : 0 < m) (he : 971 < e) :
    (Float.Model.pack (.finite s m e hm)).unpack = .infinity s := by
  have hlarge : 2 ^ Format.binary64.exponentBits ≤ (e + Format.binary64.exponentBias + (52 : Nat)).toNat + 1 := by
    have hbias : (Format.binary64.exponentBias : Int) = 1023 := rfl
    have hbits : 2 ^ Format.binary64.exponentBits = 2048 := rfl
    omega
  have hpack : UnpackedFloat.pack Format.binary64 (.finite s m e hm) =
      UnpackedFloat.pack Format.binary64 (.infinity s) := by
    simp only [UnpackedFloat.pack]
    rw [if_pos hlarge]
  change UnpackedFloat.unpack _ (UnpackedFloat.pack Format.binary64 _) = _
  rw [hpack]
  exact unpack_pack_infinity s

theorem atLeast_of_rounded {m : Nat} {e j : Int} (a : Accuracy) (hbits : 52 ≤ m.log2) (hj : j ≤ totalExponent m e)
    (hlow : -1021 ≤ j) : AtLeast j (.ofModel (.pack (roundWithAccuracy Format.binary64 .positive m e a))) := by
  obtain ⟨m', e', hm, hround, hlog, hge, -⟩ := roundWithAccuracy_normal .positive a hbits (Int.le_trans hlow hj)
  have htotal : totalExponent m' e' = 53 + e' := by
    rw [totalExponent, hlog]
    rfl
  rw [hround]
  by_cases hlarge : 971 < e'
  · exact Or.inl (unpack_pack_large .positive hm hlarge)
  · exact Or.inr ⟨_, m', e', hm, unpack_pack_normal .positive hm hlog (by omega) (by omega), hlog, by omega, Int.le_refl _⟩

/-- A count is brought to its place or, if it is too large, to infinity. -/
theorem ofNat_atLeast {n : Nat} (hpos : 0 < n) : AtLeast 1 (.ofNat n) := by
  by_cases hbound : n.log2 ≤ 900
  · exact Or.inr ⟨_, (ofNat_normal hpos hbound).mono (by omega) (Int.le_refl _)⟩
  · have hsmall : ¬ (n < 2 ^ 53 ∧ 0 ≤ 22) := by
      rintro ⟨hn, -⟩
      have := (Nat.log2_lt hpos.ne').mpr hn
      omega
    have hof : Float.ofNat n = Float.ofScientific n false 0 := rfl
    rw [hof, Float.ofScientific, dif_neg hsmall]
    obtain ⟨m, e, hbits, hplace, hround⟩ := ofScientific_natural hpos
    change AtLeast 1 (.ofModel (.pack (UnpackedFloat.ofScientific Format.binary64 n 0)))
    rw [hround]
    exact atLeast_of_rounded .exact hbits (by omega) (by omega)

/-! ### Quotients -/

theorem log2_div_ge (m : Nat) {n : Nat} (hn : 0 < n) : m.log2 - n.log2 - 1 ≤ (m / n).log2 := by
  have hquotient : m / 2 ^ (n.log2 + 1) ≤ m / n := Nat.div_le_div_left (Nat.le_of_lt Nat.lt_log2_self) hn
  have := log2_mono hquotient
  rw [log2_div_two_pow] at this
  omega

/-- The quotient of two mantissas with all bits has bits enough for its place. -/
theorem divCore_normal {m n : Nat} {e f : Int} (hm : m.log2 = 52) (hn : n.log2 = 52) (h : -1021 ≤ e - f) :
    52 ≤ (divCore Format.binary64 m e n f).1.log2 ∧
      e - f ≤ totalExponent (divCore Format.binary64 m e n f).1 (divCore Format.binary64 m e n f).2.1 := by
  have htarget : min (e - f) (max (totalExponent m e - totalExponent n f - 53) (-1074)) = e - f - 53 := by
    rw [totalExponent, totalExponent]
    omega
  have hpos : ∀ {k : Nat}, k.log2 = 52 → 0 < k := by
    rintro (_ | k) hk
    · cases hk
    · exact Nat.succ_pos k
  have hshift : (e - f - (e - f - 53)).toNat = 53 := by omega
  have hbits := log2_shiftLeft (hpos hm) 53
  have hquotient := log2_div_ge (m <<< 53) (hpos hn)
  simp only [divCore, targetExponent_eq, htarget, hshift]
  rw [totalExponent]
  omega

theorem AtLeast.div {a c d : Int} {x y : Float} (hx : AtLeast a x) (hy : Normal c d y) (hlow : -1021 ≤ a - d) :
    AtLeast (a - d) (x / y) := by
  have hdiv : x / y = .ofModel (.pack (UnpackedFloat.div Format.binary64 x.toModel.unpack y.toModel.unpack)) := rfl
  obtain ⟨n, f, hn, hy, hybits, -, hyd⟩ := hy
  rw [hdiv, hy]
  rcases hx with hx | ⟨k, m, e, hm, hx, hxbits, hxa, -⟩ <;> rw [hx]
  · exact Or.inl (unpack_pack_infinity .positive)
  · rw [totalExponent, hxbits] at hxa
    rw [totalExponent, hybits] at hyd
    obtain ⟨hbits, hplace⟩ := divCore_normal (e := e) (f := f) hxbits hybits (by omega)
    have hle : a - d ≤ e - f := by omega
    exact atLeast_of_rounded _ hbits (Int.le_trans hle hplace) hlow

theorem zero_div_normal {j k : Int} {x : Float} (h : Normal j k x) : 0 / x = 0 := by
  obtain ⟨m, e, hm, hx, -⟩ := h
  have hzero : (0 : Float).toModel.unpack = .zero .positive := rfl
  apply eq_zero_of_unpack
  change (Float.Model.pack (UnpackedFloat.div _ (0 : Float).toModel.unpack x.toModel.unpack)).unpack = _
  rw [hzero, hx]
  change (Float.Model.pack (.zero .positive)).unpack = _
  rfl

/-! ### Sums -/

/-- Mantissas with bits enough are added as they are, once they are brought to one exponent. -/
theorem add_normal {m n : Nat} {e f : Int} (hm : 0 < m) (hn : 0 < n) (hbits : 52 ≤ m.log2) :
    UnpackedFloat.add Format.binary64 (.finite .positive m e hm) (.finite .positive n f hn) =
      roundWithAccuracy Format.binary64 .positive (m <<< (e - min e f).toNat + n <<< (f - min e f).toNat) (min e f)
        .exact := by
  generalize hx : m <<< (e - min e f).toNat = x
  generalize hy : n <<< (f - min e f).toNat = y
  have hlog : 52 ≤ (x + y).log2 := by
    have hgrown : m.log2 ≤ x.log2 := by
      rw [← hx, log2_shiftLeft hm]
      omega
    exact Nat.le_trans (Nat.le_trans hbits hgrown) (log2_mono (Nat.le_add_right x y))
  have hpos : 0 < x + y := by
    rcases Nat.eq_zero_or_pos (x + y) with hzero | hpos
    · rw [hzero] at hlog
      cases hlog
    · exact hpos
  have hsum : (compare (((x + y : Nat) : Int)) 0) = .gt := Int.compare_eq_gt.mpr (by omega)
  have hshift : (min e f - Format.binary64.targetExponent (totalExponent (x + y) (min e f))).toNat = 0 := by
    rw [targetExponent_eq, totalExponent]
    omega
  change UnpackedFloat.normalize Format.binary64 ((m <<< (e - min e f).toNat : Nat) + (n <<< (f - min e f).toNat : Nat) : Int)
    (min e f) .positive = _
  rw [hx, hy, ← Int.natCast_add, UnpackedFloat.normalize, hsum]
  simp only [UnpackedFloat.round, decreaseExponent, Int.toNat_natCast, hshift]
  rw [Nat.shiftLeft_zero, Int.natCast_zero, Int.sub_zero]

theorem log2_add_le {m n k : Nat} (hm : m.log2 < k) (hn : n.log2 < k) : (m + n).log2 ≤ k := by
  have hpow : ∀ {i : Nat}, i.log2 < k → i < 2 ^ k := fun hi =>
    Nat.lt_of_lt_of_le Nat.lt_log2_self (Nat.pow_le_pow_right (by decide) hi)
  have hsum : m + n < 2 ^ (k + 1) := by
    rw [Nat.pow_succ, Nat.mul_two]
    exact Nat.add_lt_add (hpow hm) (hpow hn)
  exact log2_lt_of_lt hsum

theorem Normal.add {b : Int} {x y : Float} (hx : Normal 1 b x) (hy : Normal 1 b y) (hb : b ≤ 900) :
    Normal 1 (b + 2) (x + y) := by
  obtain ⟨m, e, hm, hx, hxbits, hxlow, hxhigh⟩ := hx
  obtain ⟨n, f, hn, hy, hybits, hylow, hyhigh⟩ := hy
  have hadd : x + y = .ofModel (.pack (UnpackedFloat.add Format.binary64 x.toModel.unpack y.toModel.unpack)) := rfl
  rw [hadd, hx, hy, add_normal hm hn hxbits.ge]
  rw [totalExponent, hxbits] at hxlow hxhigh
  rw [totalExponent, hybits] at hylow hyhigh
  have hxplace := log2_shiftLeft hm (e - min e f).toNat
  have hyplace := log2_shiftLeft hn (f - min e f).toNat
  generalize m <<< (e - min e f).toNat = p at hxplace ⊢
  generalize n <<< (f - min e f).toNat = q at hyplace ⊢
  have hlow : p.log2 ≤ (p + q).log2 := log2_mono (Nat.le_add_right p q)
  have hhigh : (p + q).log2 ≤ (b - min e f).toNat := log2_add_le (by omega) (by omega)
  have hplace : 1 ≤ totalExponent (p + q) (min e f) ∧ totalExponent (p + q) (min e f) ≤ b + 1 := by
    rw [totalExponent]
    omega
  exact (normal_of_rounded .exact (by omega) hplace.1 hplace.2 (by decide) (by omega)).mono (Int.le_refl 1) (by omega)

/-! ### Order -/

/-- Where a number without a minus sign stands. -/
def place (x : Float) : Nat ×ₗ Int ×ₗ Nat :=
  match x.toModel.unpack with
  | .finite _ m e _ => toLex (1, toLex (e, m))
  | .infinity _ => toLex (2, toLex (0, 0))
  | .zero _ | .notANumber => toLex (0, toLex (0, 0))

theorem then_eq_lt_iff {e f : Int} {m n : Nat} :
    (compare e f).then (compare m n) = .lt ↔ e < f ∨ e = f ∧ m < n := by
  rw [Ordering.then_eq_lt, Int.compare_eq_lt, Std.compare_eq_iff_eq, Nat.compare_eq_lt]

theorem Unsigned.lt_iff {x y : Float} (hx : Unsigned x) (hy : Unsigned y) : x < y ↔ place x < place y := by
  rw [lt_iff_compare, place, place]
  rcases hx with hx | hx | ⟨m, e, hm, hx⟩ <;> rcases hy with hy | hy | ⟨n, f, hn, hy⟩ <;> rw [hx, hy] <;>
    simp [UnpackedFloat.compare, Prod.Lex.toLex_lt_toLex, then_eq_lt_iff]

theorem Unsigned.beq_iff {x y : Float} (hx : Unsigned x) (hy : Unsigned y) : (x == y) = true ↔ place x = place y := by
  have hsign : compare Sign.positive .positive = .eq := rfl
  change (x.toModel.unpack.compare y.toModel.unpack == some .eq) = true ↔ _
  rw [place, place]
  rcases hx with hx | hx | ⟨m, e, hm, hx⟩ <;> rcases hy with hy | hy | ⟨n, f, hn, hy⟩ <;> rw [hx, hy] <;>
    simp [UnpackedFloat.compare, Ordering.then_eq_eq, hsign]

theorem unsigned_of_pos {x : Float} (h : 0 < x) : Unsigned x := by
  have hzero : (0 : Float).toModel.unpack = .zero .positive := rfl
  rw [lt_iff_compare, hzero] at h
  unfold Unsigned
  generalize x.toModel.unpack = u at h ⊢
  cases u with
  | notANumber => cases h
  | zero s => cases s <;> cases h
  | infinity s =>
    cases s with
    | negative => cases h
    | positive => exact Or.inr (Or.inl rfl)
  | finite s m e hm =>
    cases s with
    | negative => cases h
    | positive => exact Or.inr (Or.inr ⟨m, e, hm, rfl⟩)

/-- Where a number stands that is told from equal ones by a text: greater numbers stand first, of equal ones that with
the lesser text. -/
def placeDown (x : Float) (key : String) : (Nat ×ₗ Int ×ₗ Nat)ᵒᵈ ×ₗ String := toLex (OrderDual.toDual (place x), key)

theorem Unsigned.placeDown_lt_iff {x y : Float} (hx : Unsigned x) (hy : Unsigned y) {k l : String} :
    placeDown x k < placeDown y l ↔ y < x ∨ (x == y) = true ∧ k < l := by
  rw [placeDown, placeDown, Prod.Lex.toLex_lt_toLex, hy.lt_iff hx, hx.beq_iff hy, OrderDual.toDual_lt_toDual,
    OrderDual.toDual_inj]

theorem Unsigned.placeDown_le_iff {x y : Float} (hx : Unsigned x) (hy : Unsigned y) {k l : String} :
    (if y < x then true else if x < y then false else compare k l != .gt) =
      decide (placeDown x k ≤ placeDown y l) := by
  simp only [hy.lt_iff hx, hx.lt_iff hy, placeDown, Prod.Lex.toLex_le_toLex, OrderDual.toDual_lt_toDual,
    OrderDual.toDual_inj]
  rcases lt_trichotomy (place x) (place y) with hlt | heq | hgt
  · simp [hlt, not_lt_of_gt hlt, hlt.ne]
  · have hkeys : (compare k l != .gt) = decide (k ≤ l) := by
      rw [Bool.eq_iff_iff, bne_iff_ne, decide_eq_true_iff]
      exact compare_le_iff_le
    simp [heq, hkeys]
  · simp [hgt]

end CodeGraph
