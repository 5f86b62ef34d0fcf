import BankQuery.Proofs.Number.Order
import Mathlib.Algebra.Order.Field.Power
import Mathlib.Algebra.Order.Field.Rat
import Mathlib.Tactic.FieldSimp
import Mathlib.Tactic.Linarith
import Mathlib.Tactic.NormNum
import Mathlib.Tactic.Positivity
import Mathlib.Tactic.Ring

/-!
# How numbers are rounded

The result of an operation in double precision is the exact result, rounded: a number that can be
represented and is not below the exact result is not below the rounded one either, and so from the
other side (`Rounds`). This is what is shown here of the steps by which significands are shifted,
rounded and packed, for results that are neither negative nor above `2^52`.
-/

namespace BankQuery.Number

open Float.Model Float.Model.UnpackedFloat

def IsDouble (r : ℚ) : Prop := ∃ (k : ℕ) (j : ℤ), k < 2 ^ 53 ∧ -1074 ≤ j ∧ r = k * 2 ^ j

structure IsStored (m : ℕ) (e : ℤ) : Prop where
  small : m < 2 ^ 53
  low : -1074 ≤ e
  high : e ≤ 971
  full : 2 ^ 52 ≤ m ∨ e = -1074

inductive UnpackedHasValue : UnpackedFloat → ℚ → Prop
  | zero (s : Sign) : UnpackedHasValue (.zero s) 0
  | finite {m : ℕ} {e : ℤ} (hm : 0 < m) (h : IsStored m e) :
      UnpackedHasValue (.finite .positive m e hm) (m * 2 ^ e)

def UnpackedRounds (u : UnpackedFloat) (y : ℚ) : Prop :=
  ∃ q, UnpackedHasValue u q ∧ (∀ r, IsDouble r → y ≤ r → q ≤ r) ∧ ∀ r, IsDouble r → r ≤ y → r ≤ q

/-- A significand and its residual bits stand for `y` if it is the whole part of `y` and the bits
say whether anything is left. -/
structure StandsFor (em : ExtendedMantissa) (y : ℚ) : Prop where
  low : em.mantissa ≤ y
  high : y < em.mantissa + 1
  residue : (em.roundBit || em.stickyBit) = false ↔ y = em.mantissa

namespace StandsFor

variable {em : ExtendedMantissa} {y : ℚ}

theorem shiftRightOne (h : StandsFor em y) : StandsFor em.shiftRightOne (y / 2) := by
  obtain ⟨m, roundBit, stickyBit⟩ := em
  obtain ⟨hlow, hhigh, hresidue⟩ := h
  dsimp only at hlow hhigh hresidue
  have hm : ((2 * (m / 2) + m % 2 : ℕ) : ℚ) = m := by rw [Nat.div_add_mod]
  push_cast at hm
  rcases Nat.mod_two_eq_zero_or_one m with hmod | hmod
  · rw [hmod, Nat.cast_zero, add_zero] at hm
    refine ⟨?_, ?_, ?_⟩
    · dsimp only [ExtendedMantissa.shiftRightOne]
      linarith
    · dsimp only [ExtendedMantissa.shiftRightOne]
      linarith
    · simp only [ExtendedMantissa.shiftRightOne, hmod, bne_self_eq_false, Bool.false_or, hresidue]
      constructor <;> intro h <;> linarith
  · rw [hmod, Nat.cast_one] at hm
    refine ⟨?_, ?_, ?_⟩
    · dsimp only [ExtendedMantissa.shiftRightOne]
      linarith
    · dsimp only [ExtendedMantissa.shiftRightOne]
      linarith
    · simp only [ExtendedMantissa.shiftRightOne, hmod]
      constructor
      · intro h
        cases h
      · intro h
        linarith

theorem shiftRight (h : StandsFor em y) (n : ℕ) : StandsFor (em >>> n) (y / 2 ^ n) := by
  change StandsFor (n.repeat ExtendedMantissa.shiftRightOne em) _
  induction n with
  | zero => simpa [Nat.repeat] using h
  | succ n ih =>
    rw [Nat.repeat, pow_succ, ← div_div]
    exact ih.shiftRightOne

theorem mantissa_le_rounded (em : ExtendedMantissa) : em.mantissa ≤ em.roundedMantissa := by
  obtain ⟨m, roundBit, stickyBit⟩ := em
  cases roundBit <;> cases stickyBit <;>
    simp [ExtendedMantissa.roundedMantissa, ExtendedMantissa.accuracy, Accuracy.roundToNearestEven]

theorem rounded_le_succ (em : ExtendedMantissa) : em.roundedMantissa ≤ em.mantissa + 1 := by
  obtain ⟨m, roundBit, stickyBit⟩ := em
  cases roundBit <;> cases stickyBit <;>
    simp [ExtendedMantissa.roundedMantissa, ExtendedMantissa.accuracy, Accuracy.roundToNearestEven]
  omega

theorem rounded_eq (h : (em.roundBit || em.stickyBit) = false) :
    em.roundedMantissa = em.mantissa := by
  obtain ⟨m, roundBit, stickyBit⟩ := em
  rw [Bool.or_eq_false_iff] at h
  obtain ⟨rfl, rfl⟩ := h
  rfl

/-- The rounded significand lies between any two whole numbers that `y` lies between. -/
theorem rounded_le (h : StandsFor em y) {k : ℕ} (hk : y ≤ k) : em.roundedMantissa ≤ k := by
  by_cases hr : (em.roundBit || em.stickyBit) = false
  · rw [rounded_eq hr]
    exact_mod_cast h.low.trans hk
  · have hlt : (em.mantissa : ℚ) < y := lt_of_le_of_ne h.low fun he => hr (h.residue.mpr he.symm)
    have hlt : em.mantissa < k := by exact_mod_cast hlt.trans_le hk
    exact (rounded_le_succ em).trans hlt

theorem le_rounded (h : StandsFor em y) {k : ℕ} (hk : (k : ℚ) ≤ y) : k ≤ em.roundedMantissa := by
  have hlt : k < em.mantissa + 1 := by exact_mod_cast hk.trans_lt h.high
  exact (Nat.lt_succ_iff.mp hlt).trans (mantissa_le_rounded em)

theorem of_exact (m : ℕ) : StandsFor (.ofMantissaAndAccuracy m .exact) m where
  low := le_refl _
  high := lt_add_one _
  residue := iff_of_true rfl rfl

theorem of_fraction (a : ℕ) {b : ℕ} (hb : 0 < b) :
    StandsFor (.ofMantissaAndAccuracy (a / b) (accuracyOfFraction (a % b) b)) (a / b) := by
  have hpos : (0 : ℚ) < b := by exact_mod_cast hb
  have hmantissa : (ExtendedMantissa.ofMantissaAndAccuracy (a / b)
      (accuracyOfFraction (a % b) b)).mantissa = a / b := by
    unfold accuracyOfFraction
    split_ifs
    · rfl
    · cases compare (2 * (a % b)) b <;> rfl
  have hbits : ((ExtendedMantissa.ofMantissaAndAccuracy (a / b)
      (accuracyOfFraction (a % b) b)).roundBit || (ExtendedMantissa.ofMantissaAndAccuracy (a / b)
        (accuracyOfFraction (a % b) b)).stickyBit) = false ↔ a % b = 0 := by
    unfold accuracyOfFraction
    split_ifs with h
    · exact iff_of_true rfl h
    · refine iff_of_false ?_ h
      cases compare (2 * (a % b)) b <;> exact Bool.noConfusion
  have hdiv : ((b * (a / b) + a % b : ℕ) : ℚ) = a := by rw [Nat.div_add_mod]
  push_cast at hdiv
  have hmod : ((a % b : ℕ) : ℚ) < b := by exact_mod_cast Nat.mod_lt a hb
  have hnonneg : (0 : ℚ) ≤ (a % b : ℕ) := Nat.cast_nonneg _
  refine ⟨?_, ?_, ?_⟩
  · rw [hmantissa, le_div_iff₀ hpos]
    linarith
  · rw [hmantissa, div_lt_iff₀ hpos]
    linarith
  · rw [hbits, hmantissa, div_eq_iff hpos.ne', ← Nat.cast_eq_zero (R := ℚ)]
    constructor <;> intro h <;> linarith

end StandsFor

section Exponents

/-- The exponent to which a number is shifted before it is rounded. -/
def targetOf (m : ℕ) (e : ℤ) : ℤ := max (m.log2 + e - 52) (-1074)

theorem targetExponent_eq (total : ℤ) :
    Format.binary64.targetExponent total = max (total - 53) (-1074) := by
  rw [Format.targetExponent, Format.minExponent]
  rfl

theorem targetExponent_totalExponent (m : ℕ) (e : ℤ) :
    Format.binary64.targetExponent (totalExponent m e) = targetOf m e := by
  rw [targetExponent_eq, totalExponent, targetOf]
  congr 1
  ring

theorem shiftToTargetExponent_eq (m : ℕ) {e : ℤ} (a : Accuracy) (he : e ≤ targetOf m e) :
    shiftToTargetExponent .binary64 m e a =
      (ExtendedMantissa.ofMantissaAndAccuracy m a >>> (targetOf m e - e).toNat, targetOf m e) := by
  unfold shiftToTargetExponent shiftToExponent
  rw [targetExponent_totalExponent]
  dsimp only
  rw [Int.toNat_of_nonneg (sub_nonneg.mpr he), add_sub_cancel]

/-- A significand that fits is not shifted. -/
theorem shiftToTargetExponent_of_lt {m : ℕ} {e : ℤ} (hm : m < 2 ^ 53) (he : -1074 ≤ e) :
    shiftToTargetExponent .binary64 m e .exact = (⟨m, false, false⟩, e) := by
  have hlog : m.log2 ≤ 52 := by
    rcases Nat.eq_zero_or_pos m with rfl | hpos
    · decide
    · exact Nat.lt_succ_iff.mp ((Nat.log2_lt hpos.ne').mpr hm)
  have htarget : targetOf m e ≤ e := max_le (by omega) he
  unfold shiftToTargetExponent shiftToExponent
  rw [targetExponent_totalExponent]
  dsimp only
  rw [Int.toNat_of_nonpos (sub_nonpos.mpr htarget), Nat.cast_zero, add_zero]
  rfl

/-- A significand that has been rounded up to one bit too many is shifted by that bit. -/
theorem shiftToTargetExponent_carry {e : ℤ} (he : -1074 ≤ e) :
    shiftToTargetExponent .binary64 (2 ^ 53) e .exact = (⟨2 ^ 52, false, false⟩, e + 1) := by
  have htarget : targetOf (2 ^ 53) e = e + 1 := by
    rw [targetOf, Nat.log2_two_pow, max_eq_left (by omega)]
    push_cast
    ring
  rw [shiftToTargetExponent_eq _ _ (by omega), htarget, add_sub_cancel_left]
  rfl

theorem two_zpow_pos (e : ℤ) : (0 : ℚ) < 2 ^ e := zpow_pos (by norm_num) e

theorem two_zpow_add (e : ℤ) (n : ℕ) : (2 : ℚ) ^ (e + n) = 2 ^ n * 2 ^ e := by
  rw [zpow_add₀ (by norm_num), zpow_natCast, mul_comm]

/-- A number that can be represented is a multiple of the unit, or else below the least number with
53 bits in that unit. -/
theorem IsDouble.cases {r : ℚ} (h : IsDouble r) (t : ℤ) :
    (∃ k : ℕ, r = k * 2 ^ t) ∨ (-1074 < t ∧ r < 2 ^ 52 * 2 ^ t) := by
  obtain ⟨k, j, hk, hj, rfl⟩ := h
  rcases le_or_gt t j with htj | htj
  · obtain ⟨n, hn⟩ := Int.le.dest htj
    refine .inl ⟨k * 2 ^ n, ?_⟩
    rw [← hn, two_zpow_add]
    push_cast
    ring
  · refine .inr ⟨hj.trans_lt htj, ?_⟩
    have hk : (k : ℚ) < 2 ^ 53 := by exact_mod_cast hk
    have hunit : (2 : ℚ) ^ j ≤ 2 ^ (t - 1) := zpow_le_zpow_right₀ (by norm_num) (by omega)
    have hhalf : (2 : ℚ) ^ t = 2 * 2 ^ (t - 1) := by
      rw [← zpow_one_add₀ (by norm_num), add_sub_cancel]
    calc (k : ℚ) * 2 ^ j < 2 ^ 53 * 2 ^ j := mul_lt_mul_of_pos_right hk (two_zpow_pos j)
      _ ≤ 2 ^ 53 * 2 ^ (t - 1) := mul_le_mul_of_nonneg_left hunit (by norm_num)
      _ = 2 ^ 52 * 2 ^ t := by rw [hhalf]; ring

/-- What the whole part of `y` in the unit of the target lies between. -/
theorem StandsFor.target_bounds {m : ℕ} {e : ℤ} {a : Accuracy} {y : ℚ}
    (h : StandsFor (.ofMantissaAndAccuracy m a) y) (he : e ≤ targetOf m e) :
    y / 2 ^ (targetOf m e - e).toNat < 2 ^ 53 ∧
      (-1074 < targetOf m e → 2 ^ 52 ≤ y / 2 ^ (targetOf m e - e).toNat) := by
  obtain ⟨n, hn⟩ := Int.le.dest he
  have hmantissa : (ExtendedMantissa.ofMantissaAndAccuracy m a).mantissa = m := by
    cases a with
    | exact => rfl
    | inexact o => cases o <;> rfl
  have hlow := h.low
  have hhigh := h.high
  rw [hmantissa] at hlow hhigh
  rw [← hn, add_sub_cancel_left, Int.toNat_natCast]
  have hpow : (0 : ℚ) < 2 ^ n := by positivity
  rw [div_lt_iff₀ hpow, le_div_iff₀ hpow]
  have htarget : targetOf m e = e + n := hn.symm
  constructor
  · have hbits : m.log2 + 1 ≤ 53 + n := by
      rw [targetOf] at htarget
      omega
    have hm : m + 1 ≤ 2 ^ (53 + n) :=
      (Nat.lt_log2_self (n := m)).trans_le (Nat.pow_le_pow_right (by decide) hbits)
    have hm : (m : ℚ) + 1 ≤ 2 ^ (53 + n) := by exact_mod_cast hm
    rw [← pow_add]
    exact hhigh.trans_le hm
  · intro hmin
    have hbits : m.log2 = 52 + n := by
      rw [targetOf] at htarget
      omega
    have hne : m ≠ 0 := by
      rintro rfl
      rw [Nat.log2_zero] at hbits
      omega
    have hm : 2 ^ (52 + n) ≤ m := hbits ▸ Nat.log2_self_le hne
    have hm : (2 : ℚ) ^ (52 + n) ≤ m := by exact_mod_cast hm
    rw [← pow_add]
    exact hm.trans hlow

end Exponents

/-- A rounded significand, shifted once more if it has come to have one bit too many, is stored. -/
theorem hasValue_of_rounded {k : ℕ} {t : ℤ} (hk : k ≤ 2 ^ 53) (hfull : 2 ^ 52 ≤ k ∨ t = -1074)
    (ht : -1074 ≤ t) (hsmall : (k : ℚ) * 2 ^ t ≤ 2 ^ 52) :
    UnpackedHasValue (if h : (shiftToTargetExponent .binary64 k t .exact).1.mantissa = 0 then
        .zero .positive
      else .finite .positive (shiftToTargetExponent .binary64 k t .exact).1.mantissa
        (shiftToTargetExponent .binary64 k t .exact).2 (Nat.pos_of_ne_zero h)) (k * 2 ^ t) := by
  have hhigh : t ≤ 0 := by
    rcases hfull with hfull | rfl
    · have hfull : (2 : ℚ) ^ 52 ≤ k := by exact_mod_cast hfull
      have hunit : (2 : ℚ) ^ t ≤ 1 := by
        refine le_of_mul_le_mul_left ?_ (show (0 : ℚ) < 2 ^ 52 by norm_num)
        rw [mul_one]
        exact (mul_le_mul_of_nonneg_right hfull (two_zpow_pos t).le).trans hsmall
      exact (zpow_le_one_iff_right₀ (by norm_num)).mp hunit
    · decide
  rcases hk.lt_or_eq with hlt | rfl
  · rw [shiftToTargetExponent_of_lt hlt ht]
    dsimp only
    by_cases hz : k = 0
    · rw [dif_pos hz, hz, Nat.cast_zero, zero_mul]
      exact .zero _
    · rw [dif_neg hz]
      exact .finite _ ⟨hlt, ht, by omega, hfull⟩
  · rw [shiftToTargetExponent_carry ht]
    have hvalue : ((2 ^ 53 : ℕ) : ℚ) * 2 ^ t = (2 ^ 52 : ℕ) * 2 ^ (t + 1) := by
      rw [zpow_add_one₀ (by norm_num)]
      push_cast
      ring
    rw [hvalue]
    exact .finite (m := 2 ^ 52) (e := t + 1) (by decide)
      ⟨by decide, by omega, by omega, .inl le_rfl⟩

/-- What stands for `y` in the unit `2 ^ e` is rounded as it has to be. -/
theorem rounds_roundWithAccuracy {m : ℕ} {e : ℤ} {a : Accuracy} {y : ℚ}
    (h : StandsFor (.ofMantissaAndAccuracy m a) y) (he : e ≤ targetOf m e)
    (hsmall : y * 2 ^ e ≤ 2 ^ 52) :
    UnpackedRounds (roundWithAccuracy .binary64 .positive m e a) (y * 2 ^ e) := by
  obtain ⟨hlt, hfull⟩ := h.target_bounds he
  obtain ⟨n, hn⟩ := Int.le.dest he
  have hshift : (targetOf m e - e).toNat = n := by omega
  have hstands := h.shiftRight n
  have hy : y * 2 ^ e = y / 2 ^ n * 2 ^ targetOf m e := by
    rw [← hn, two_zpow_add]
    field_simp
  have ht : -1074 ≤ targetOf m e := le_max_right _ _
  have hpos := two_zpow_pos (targetOf m e)
  rw [roundWithAccuracy, shiftToTargetExponent_eq m a he, hshift]
  rw [hshift] at hlt hfull
  rw [hy] at hsmall ⊢
  generalize y / 2 ^ n = z at *
  generalize targetOf m e = t at *
  generalize ExtendedMantissa.ofMantissaAndAccuracy m a >>> n = em at *
  -- Numbers that can be represented and lie on one side of `z` lie there in whole units.
  have hle (r : ℚ) (hr : IsDouble r) (hzr : z * 2 ^ t ≤ r) :
      (em.roundedMantissa : ℚ) * 2 ^ t ≤ r := by
    rcases hr.cases t with ⟨k, rfl⟩ | ⟨hmin, hrt⟩
    · have hk : z ≤ k := le_of_mul_le_mul_right hzr hpos
      have hk := hstands.rounded_le hk
      exact mul_le_mul_of_nonneg_right (by exact_mod_cast hk) hpos.le
    · have := mul_le_mul_of_nonneg_right (hfull hmin) hpos.le
      linarith
  have hge (r : ℚ) (hr : IsDouble r) (hrz : r ≤ z * 2 ^ t) :
      r ≤ (em.roundedMantissa : ℚ) * 2 ^ t := by
    rcases hr.cases t with ⟨k, rfl⟩ | ⟨hmin, hrt⟩
    · have hk : (k : ℚ) ≤ z := le_of_mul_le_mul_right hrz hpos
      have hk := hstands.le_rounded hk
      exact mul_le_mul_of_nonneg_right (by exact_mod_cast hk) hpos.le
    · have hk : 2 ^ 52 ≤ em.roundedMantissa :=
        hstands.le_rounded (by exact_mod_cast hfull hmin)
      have hk : (2 : ℚ) ^ 52 ≤ em.roundedMantissa := by exact_mod_cast hk
      exact hrt.le.trans (mul_le_mul_of_nonneg_right hk hpos.le)
  refine ⟨em.roundedMantissa * 2 ^ t, ?_, hle, hge⟩
  refine hasValue_of_rounded ?_ ?_ ht ?_
  · exact hstands.rounded_le (by push_cast; exact hlt.le)
  · rcases ht.lt_or_eq with hmin | hmin
    · exact .inl (hstands.le_rounded (by push_cast; exact hfull hmin))
    · exact .inr hmin.symm
  · exact hle _ ⟨1, 52, by norm_num, by norm_num, by norm_num⟩ hsmall

section Packing

theorem ofBitVec_unpackSign (s : Sign) (e : BitVec 11) (m : BitVec 52) :
    Sign.ofBitVec (unpackSign (packComponents .binary64 s e m)) = s := by
  delta unpackSign packComponents BitVec.extractLsb
  dsimp only
  rw [BitVec.extractLsb'_append_eq_of_le (by omega),
    BitVec.extractLsb'_append_eq_of_le (by omega)]
  cases s with
  | negative | positive => rfl

theorem toNat_implicit {m : ℕ} (hfull : 2 ^ 52 ≤ m) (hsmall : m < 2 ^ 53) :
    (1#1 ++ BitVec.ofNat 52 m).toNat = m := by
  rw [BitVec.toNat_append, ← Nat.shiftLeft_add_eq_or_of_lt (BitVec.ofNat 52 m).isLt,
    BitVec.toNat_ofNat, BitVec.toNat_ofNat, Nat.shiftLeft_eq]
  omega

theorem finite_congr {m n : ℕ} {e f : ℤ} {hm : 0 < m} {hn : 0 < n} (hmn : m = n) (hef : e = f) :
    UnpackedFloat.finite .positive m e hm = .finite .positive n f hn := by
  subst hmn
  subst hef
  rfl

theorem unpack_normal {b : BitVec 11} {m : BitVec 52} (hmax : b ≠ -1#11) (hzero : b ≠ 0#11)
    (hm : 0 < (1#1 ++ m).toNat) :
    UnpackedFloat.unpack .binary64 (packComponents .binary64 .positive b m) =
      .finite .positive (1#1 ++ m).toNat (b.toNat - 1075) hm := by
  unfold UnpackedFloat.unpack
  dsimp only
  rw [unpackExponent_packComponents, if_neg hmax, if_neg hzero, ofBitVec_unpackSign]
  refine finite_congr ?_ rfl
  rw [unpackMantissa_packComponents]

theorem unpack_subnormal {m : BitVec 52} (hzero : m ≠ 0#52) (hm : 0 < m.toNat) :
    UnpackedFloat.unpack .binary64 (packComponents .binary64 .positive 0#11 m) =
      .finite .positive m.toNat (-1074) hm := by
  have hmax : (0#11) ≠ -1#11 := by decide
  have hmantissa : unpackMantissa (packComponents .binary64 .positive 0#11 m) = m :=
    unpackMantissa_packComponents
  have hzero := hmantissa.trans_ne hzero
  unfold UnpackedFloat.unpack
  dsimp only
  rw [unpackExponent_packComponents, if_neg hmax, if_pos rfl, dif_neg hzero, ofBitVec_unpackSign]
  refine finite_congr ?_ rfl
  rw [hmantissa]

/-- What is stored is found again. -/
theorem unpack_pack_finite {m : ℕ} {e : ℤ} (hm : 0 < m) (h : IsStored m e) :
    (Float.Model.pack (.finite .positive m e hm)).unpack = .finite .positive m e hm := by
  have hsmall := h.small
  have hlow := h.low
  have hhigh := h.high
  obtain ⟨b, hb⟩ := Int.eq_ofNat_of_zero_le (a := e + 1075) (by omega)
  have hbiased : (e + (Format.binary64.exponentBias : ℤ) +
      (Format.binary64.mantissaBitsWithoutImplicit : ℤ)).toNat = b := by
    change (e + 1023 + 52).toNat = b
    omega
  have hfits : ¬ 2 ^ Format.binary64.exponentBits ≤ b + 1 := by
    change ¬ 2 ^ 11 ≤ b + 1
    omega
  change UnpackedFloat.unpack .binary64 (UnpackedFloat.pack .binary64 _) = _
  delta UnpackedFloat.pack
  dsimp only
  rw [hbiased, if_neg hfits]
  by_cases hfull : 2 ^ 52 ≤ m
  · have hlog : m.log2 + 1 = Format.binary64.mantissaBits := by
      rw [(Nat.log2_eq_iff hm.ne').mpr ⟨hfull, hsmall⟩]
      rfl
    have hexponent : (BitVec.ofNat 11 b).toNat = b := by
      rw [BitVec.toNat_ofNat, Nat.mod_eq_of_lt (by omega)]
    have hmax : BitVec.ofNat 11 b ≠ -1#11 := by
      intro he
      have hmax : b = 2047 := hexponent.symm.trans (congrArg BitVec.toNat he)
      omega
    have hzero : BitVec.ofNat 11 b ≠ 0#11 := by
      intro he
      have hzero : b = 0 := hexponent.symm.trans (congrArg BitVec.toNat he)
      omega
    rw [if_pos hlog]
    have himplicit := toNat_implicit hfull hsmall
    refine (unpack_normal hmax hzero (hm.trans_eq himplicit.symm)).trans
      (finite_congr himplicit ?_)
    rw [hexponent]
    omega
  · have he : e = -1074 := h.full.resolve_left hfull
    have hlog : ¬ m.log2 + 1 = Format.binary64.mantissaBits := by
      intro hlog
      have hlog : m.log2 = 52 := Nat.succ_injective hlog
      exact hfull (hlog ▸ Nat.log2_self_le hm.ne')
    have hmantissa : (BitVec.ofNat 52 m).toNat = m := by
      rw [BitVec.toNat_ofNat, Nat.mod_eq_of_lt (by omega)]
    have hzero : BitVec.ofNat 52 m ≠ 0#52 := by
      intro hz
      have hzero : m = 0 := hmantissa.symm.trans (congrArg BitVec.toNat hz)
      omega
    rw [if_neg hlog]
    exact (unpack_subnormal hzero (hm.trans_eq hmantissa.symm)).trans
      (finite_congr hmantissa he.symm)

theorem unpack_pack {u : UnpackedFloat} {q : ℚ} (h : UnpackedHasValue u q) :
    (Float.Model.pack u).unpack = u := by
  cases h with
  | zero s => cases s <;> rfl
  | finite hm h => exact unpack_pack_finite hm h

end Packing

end BankQuery.Number
