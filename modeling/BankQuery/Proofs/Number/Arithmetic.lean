import BankQuery.Proofs.Number.Rounding

/-!
# Arithmetic in double precision

`HasValue x q` says which number `x` is, for numbers that are not negative. Sums, differences,
products and quotients of such numbers are the exact results, rounded; so they are exact where the
exact result can be represented, and never above a number that can be and is not below it
(`AtMost`).
-/

namespace BankQuery.Number

open Float.Model Float.Model.UnpackedFloat

def HasValue (x : Float) (q : ℚ) : Prop := UnpackedHasValue x.toModel.unpack q

def Rounds (x : Float) (y : ℚ) : Prop :=
  ∃ q, HasValue x q ∧ (∀ r, IsDouble r → y ≤ r → q ≤ r) ∧ ∀ r, IsDouble r → r ≤ y → r ≤ q

def AtMost (x : Float) (r : ℚ) : Prop := ∃ q, HasValue x q ∧ q ≤ r

section Unpacked

theorem log2_shiftLeft {m : ℕ} (hm : 0 < m) (k : ℕ) : (m <<< k).log2 = m.log2 + k := by
  rw [Nat.shiftLeft_eq]
  refine (Nat.log2_eq_iff (Nat.mul_pos hm (Nat.two_pow_pos k)).ne').mpr ⟨?_, ?_⟩
  · rw [pow_add]
    exact Nat.mul_le_mul_right _ (Nat.log2_self_le hm.ne')
  · rw [Nat.add_right_comm, pow_add]
    exact Nat.mul_lt_mul_of_pos_right Nat.lt_log2_self (Nat.two_pow_pos k)

theorem cast_shiftLeft (m k : ℕ) (e : ℤ) : ((m <<< k : ℕ) : ℚ) * 2 ^ (e - k) = m * 2 ^ e := by
  rw [Nat.shiftLeft_eq, show (2 : ℚ) ^ e = 2 ^ (e - k + k) by rw [sub_add_cancel], two_zpow_add]
  push_cast
  ring

variable {m : ℕ} {e : ℤ}

theorem rounds_round (hm : 0 < m) (hsmall : (m : ℚ) * 2 ^ e ≤ 2 ^ 52) :
    UnpackedRounds (UnpackedFloat.round .binary64 .positive m e) (m * 2 ^ e) := by
  have hcast := cast_shiftLeft m (e - targetOf m e).toNat e
  have htarget : e - (e - targetOf m e).toNat ≤
      targetOf (m <<< (e - targetOf m e).toNat) (e - (e - targetOf m e).toNat) := by
    rw [targetOf, targetOf, log2_shiftLeft hm]
    omega
  rw [← hcast] at hsmall ⊢
  unfold UnpackedFloat.round
  rw [targetExponent_totalExponent]
  exact rounds_roundWithAccuracy (.of_exact _) htarget hsmall

theorem UnpackedHasValue.rounds {u : UnpackedFloat} {q : ℚ} (h : UnpackedHasValue u q) :
    UnpackedRounds u q :=
  ⟨q, h, fun _ _ hr => hr, fun _ _ hr => hr⟩

theorem UnpackedHasValue.nonneg {u : UnpackedFloat} {q : ℚ} (h : UnpackedHasValue u q) : 0 ≤ q := by
  cases h with
  | zero s => exact le_rfl
  | finite hm h => exact mul_nonneg (Nat.cast_nonneg _) (two_zpow_pos _).le

theorem rounds_normalize {z : ℤ} (hz : 0 ≤ z) (hsmall : (z : ℚ) * 2 ^ e ≤ 2 ^ 52) :
    UnpackedRounds (UnpackedFloat.normalize .binary64 z e .positive) (z * 2 ^ e) := by
  obtain ⟨m, rfl⟩ := Int.eq_ofNat_of_zero_le hz
  unfold UnpackedFloat.normalize
  rcases Nat.eq_zero_or_pos m with rfl | hm
  · simpa using (UnpackedHasValue.zero .positive).rounds
  · rw [Int.compare_eq_gt.mpr (Int.natCast_pos.mpr hm)]
    dsimp only
    rw [Int.toNat_natCast]
    rw [Int.cast_natCast] at hsmall ⊢
    exact rounds_round hm hsmall

/-- A number in a smaller unit. -/
theorem decreaseExponent_value (m : ℕ) {e t : ℤ} (h : t ≤ e) :
    ((decreaseExponent m e t).1 : ℚ) * 2 ^ t = m * 2 ^ e := by
  obtain ⟨k, rfl⟩ := Int.le.dest h
  have hk : (t + k - t).toNat = k := by omega
  have hcast := cast_shiftLeft m k (t + k)
  rw [add_sub_cancel_right] at hcast
  unfold decreaseExponent
  rw [hk]
  exact hcast

theorem rounds_add {u v : UnpackedFloat} {p q : ℚ} (hu : UnpackedHasValue u p)
    (hv : UnpackedHasValue v q) (hsmall : p + q ≤ 2 ^ 52) :
    UnpackedRounds (UnpackedFloat.add .binary64 u v) (p + q) := by
  cases hu with
  | zero s =>
    rw [zero_add]
    cases hv with
    | zero s' => cases s <;> cases s' <;> exact (UnpackedHasValue.zero _).rounds
    | finite hn h' => exact (UnpackedHasValue.finite hn h').rounds
  | @finite m e hm h =>
    cases hv with
    | zero s =>
      rw [add_zero]
      exact (UnpackedHasValue.finite hm h).rounds
    | @finite n f hn h' =>
      have hadd : UnpackedFloat.add .binary64 (.finite .positive m e hm)
          (.finite .positive n f hn) =
          UnpackedFloat.normalize .binary64 ((decreaseExponent m e (min e f)).1 +
            (decreaseExponent n f (min e f)).1 : ℤ) (min e f) .positive := rfl
      have hvalue : (m : ℚ) * 2 ^ e + n * 2 ^ f =
          (((decreaseExponent m e (min e f)).1 + (decreaseExponent n f (min e f)).1 : ℤ) : ℚ) *
            2 ^ min e f := by
        rw [← decreaseExponent_value m (min_le_left e f),
          ← decreaseExponent_value n (min_le_right e f)]
        push_cast
        ring
      rw [hvalue] at hsmall ⊢
      rw [hadd]
      exact rounds_normalize (by positivity) hsmall

theorem rounds_sub {u v : UnpackedFloat} {p q : ℚ} (hu : UnpackedHasValue u p)
    (hv : UnpackedHasValue v q) (hle : q ≤ p) (hsmall : p ≤ 2 ^ 52) :
    UnpackedRounds (UnpackedFloat.sub .binary64 u v) (p - q) := by
  have hsmall : p - q ≤ 2 ^ 52 := (sub_le_self p hv.nonneg).trans hsmall
  cases hv with
  | zero s =>
    rw [sub_zero]
    cases hu with
    | zero s' => cases s <;> cases s' <;> exact (UnpackedHasValue.zero _).rounds
    | finite hm h => exact (UnpackedHasValue.finite hm h).rounds
  | @finite n f hn h' =>
    cases hu with
    | zero s =>
      have hpos : (0 : ℚ) < n * 2 ^ f := mul_pos (Nat.cast_pos.mpr hn) (two_zpow_pos f)
      exact absurd hle hpos.not_ge
    | @finite m e hm h =>
      have hsub : UnpackedFloat.sub .binary64 (.finite .positive m e hm)
          (.finite .positive n f hn) =
          UnpackedFloat.normalize .binary64 ((decreaseExponent m e (min e f)).1 -
            (decreaseExponent n f (min e f)).1 : ℤ) (min e f) .positive := rfl
      have hvalue : (m : ℚ) * 2 ^ e - n * 2 ^ f =
          (((decreaseExponent m e (min e f)).1 - (decreaseExponent n f (min e f)).1 : ℤ) : ℚ) *
            2 ^ min e f := by
        rw [← decreaseExponent_value m (min_le_left e f),
          ← decreaseExponent_value n (min_le_right e f)]
        push_cast
        ring
      have hnonneg : 0 ≤ (m : ℚ) * 2 ^ e - n * 2 ^ f := sub_nonneg.mpr hle
      rw [hvalue] at hsmall hnonneg ⊢
      rw [hsub]
      exact rounds_normalize (Int.cast_nonneg_iff.mp
        (nonneg_of_mul_nonneg_left hnonneg (two_zpow_pos _))) hsmall

theorem IsStored.log2_eq {m : ℕ} {e : ℤ} (h : IsStored m e) (hm : 0 < m) :
    m.log2 = 52 ∨ e = -1074 := by
  refine h.full.imp_left fun hfull => ?_
  exact (Nat.log2_eq_iff hm.ne').mpr ⟨hfull, h.small⟩

theorem rounds_mul {u v : UnpackedFloat} {p q : ℚ} (hu : UnpackedHasValue u p)
    (hv : UnpackedHasValue v q) (hsmall : p * q ≤ 2 ^ 52) :
    UnpackedRounds (UnpackedFloat.mul .binary64 u v) (p * q) := by
  cases hu with
  | zero s =>
    rw [zero_mul]
    cases hv with
    | zero s' => exact (UnpackedHasValue.zero _).rounds
    | finite hn h' => exact (UnpackedHasValue.zero _).rounds
  | @finite m e hm h =>
    cases hv with
    | zero s =>
      rw [mul_zero]
      exact (UnpackedHasValue.zero _).rounds
    | @finite n f hn h' =>
      have hvalue : (m : ℚ) * 2 ^ e * (n * 2 ^ f) = ((m * n : ℕ) : ℚ) * 2 ^ (e + f) := by
        rw [zpow_add₀ (by norm_num)]
        push_cast
        ring
      have hlog : m.log2 + n.log2 ≤ (m * n).log2 := by
        refine (Nat.le_log2 (Nat.mul_pos hm hn).ne').mpr ?_
        rw [pow_add]
        exact Nat.mul_le_mul (Nat.log2_self_le hm.ne') (Nat.log2_self_le hn.ne')
      have htarget : e + f ≤ targetOf (m * n) (e + f) := by
        rw [targetOf]
        rcases h.log2_eq hm with hm | he
        · omega
        · rcases h'.log2_eq hn with hn | hf
          · omega
          · omega
      rw [hvalue] at hsmall ⊢
      exact rounds_roundWithAccuracy (.of_exact _) htarget hsmall

/-- A quotient is computed with all bits that are needed to round it. -/
theorem le_targetOf_div {m n k : ℕ} {t : ℤ} (hm : 0 < m) (hn : 0 < n)
    (hbits : t ≤ -1074 ∨ 53 + n.log2 ≤ m.log2 + k) : t ≤ targetOf ((m <<< k) / n) t := by
  rw [targetOf]
  rcases hbits with ht | hbits
  · exact le_max_of_le_right ht
  · have hlog : 52 ≤ ((m <<< k) / n).log2 := by
      have hle : 2 ^ 52 ≤ (m <<< k) / n := by
        rw [Nat.le_div_iff_mul_le hn, Nat.shiftLeft_eq]
        calc 2 ^ 52 * n ≤ 2 ^ 52 * 2 ^ (n.log2 + 1) := Nat.mul_le_mul_left _ Nat.lt_log2_self.le
          _ = 2 ^ (53 + n.log2) := by rw [← pow_add]; congr 1; omega
          _ ≤ 2 ^ (m.log2 + k) := Nat.pow_le_pow_right (by decide) hbits
          _ = 2 ^ m.log2 * 2 ^ k := pow_add _ _ _
          _ ≤ m * 2 ^ k := Nat.mul_le_mul_right _ (Nat.log2_self_le hm.ne')
      exact (Nat.le_log2 (by omega)).mpr hle
    exact le_max_of_le_left (by omega)

theorem rounds_div {u v : UnpackedFloat} {p q : ℚ} (hu : UnpackedHasValue u p)
    (hv : UnpackedHasValue v q) (hpos : 0 < q) (hsmall : p / q ≤ 2 ^ 52) :
    UnpackedRounds (UnpackedFloat.div .binary64 u v) (p / q) := by
  cases hv with
  | zero s => exact absurd hpos (lt_irrefl _)
  | @finite n f hn h' =>
    cases hu with
    | zero s =>
      rw [zero_div]
      exact (UnpackedHasValue.zero _).rounds
    | @finite m e hm h =>
      obtain ⟨t, ht⟩ : ∃ t, t = min (e - f)
          (Format.binary64.targetExponent (totalExponent m e - totalExponent n f)) := ⟨_, rfl⟩
      obtain ⟨k, hk⟩ := Int.le.dest (ht.le.trans (min_le_left _ _))
      have hshift : (e - f - t).toNat = k := by omega
      have hdiv : UnpackedFloat.div .binary64 (.finite .positive m e hm)
          (.finite .positive n f hn) =
          roundWithAccuracy .binary64 .positive ((m <<< k) / n) t
            (accuracyOfFraction ((m <<< k) % n) n) := by
        rw [← hshift, ht]
        rfl
      have hbits : t ≤ -1074 ∨ 53 + n.log2 ≤ m.log2 + k := by
        rw [targetExponent_eq, totalExponent, totalExponent] at ht
        omega
      have hvalue : (m : ℚ) * 2 ^ e / (n * 2 ^ f) = ((m <<< k : ℕ) : ℚ) / n * 2 ^ t := by
        have hef : e = f + (t + k) := by omega
        rw [hef, zpow_add₀ (by norm_num), two_zpow_add, Nat.shiftLeft_eq]
        have hunit := (two_zpow_pos f).ne'
        push_cast
        field_simp
      rw [hvalue] at hsmall ⊢
      rw [hdiv]
      exact rounds_roundWithAccuracy (.of_fraction _ hn) (le_targetOf_div hm hn hbits) hsmall

end Unpacked

section Doubles

variable {x y : Float} {p q r : ℚ}

theorem HasValue.of_pack {u : UnpackedFloat} (h : UnpackedHasValue u q) :
    HasValue (.ofModel (.pack u)) q := by
  rw [HasValue, unpack_pack h]
  exact h

theorem Rounds.of_pack {u : UnpackedFloat} (h : UnpackedRounds u r) :
    Rounds (.ofModel (.pack u)) r := by
  obtain ⟨q, hq, hbounds⟩ := h
  exact ⟨q, .of_pack hq, hbounds⟩

theorem Rounds.add (hx : HasValue x p) (hy : HasValue y q) (hsmall : p + q ≤ 2 ^ 52) :
    Rounds (x + y) (p + q) :=
  .of_pack (rounds_add hx hy hsmall)

theorem Rounds.sub (hx : HasValue x p) (hy : HasValue y q) (hle : q ≤ p) (hsmall : p ≤ 2 ^ 52) :
    Rounds (x - y) (p - q) :=
  .of_pack (rounds_sub hx hy hle hsmall)

theorem Rounds.mul (hx : HasValue x p) (hy : HasValue y q) (hsmall : p * q ≤ 2 ^ 52) :
    Rounds (x * y) (p * q) :=
  .of_pack (rounds_mul hx hy hsmall)

theorem Rounds.div (hx : HasValue x p) (hy : HasValue y q) (hpos : 0 < q)
    (hsmall : p / q ≤ 2 ^ 52) : Rounds (x / y) (p / q) :=
  .of_pack (rounds_div hx hy hpos hsmall)

/-- What can be represented is not changed by rounding. -/
theorem Rounds.exact (h : Rounds x r) (hr : IsDouble r) : HasValue x r := by
  obtain ⟨q, hq, hle, hge⟩ := h
  rwa [le_antisymm (hle r hr le_rfl) (hge r hr le_rfl)] at hq

theorem Rounds.atMost (h : Rounds x q) (hr : IsDouble r) (hq : q ≤ r) : AtMost x r := by
  obtain ⟨v, hv, hle, -⟩ := h
  exact ⟨v, hv, hle r hr hq⟩

theorem HasValue.nonneg (h : HasValue x q) : 0 ≤ q := UnpackedHasValue.nonneg h

theorem HasValue.atMost (h : HasValue x q) (hr : q ≤ r) : AtMost x r := ⟨q, h, hr⟩

theorem AtMost.mono (h : AtMost x p) (hr : p ≤ r) : AtMost x r := by
  obtain ⟨v, hv, hle⟩ := h
  exact ⟨v, hv, hle.trans hr⟩

theorem AtMost.add (hx : AtMost x p) (hy : AtMost y q) (hr : IsDouble r) (hle : p + q ≤ r)
    (hsmall : r ≤ 2 ^ 52) : AtMost (x + y) r := by
  obtain ⟨v, hv, hvp⟩ := hx
  obtain ⟨w, hw, hwq⟩ := hy
  have hsum : v + w ≤ r := (add_le_add hvp hwq).trans hle
  exact (Rounds.add hv hw (hsum.trans hsmall)).atMost hr hsum

theorem AtMost.mul (hx : AtMost x p) (hy : AtMost y q) (hr : IsDouble r) (hle : p * q ≤ r)
    (hsmall : r ≤ 2 ^ 52) : AtMost (x * y) r := by
  obtain ⟨v, hv, hvp⟩ := hx
  obtain ⟨w, hw, hwq⟩ := hy
  have hproduct : v * w ≤ r :=
    (mul_le_mul hvp hwq hw.nonneg (hv.nonneg.trans hvp)).trans hle
  exact (Rounds.mul hv hw (hproduct.trans hsmall)).atMost hr hproduct

theorem AtMost.div (hx : AtMost x p) (hy : HasValue y q) (hpos : 0 < q) (hr : IsDouble r)
    (hle : p / q ≤ r) (hsmall : r ≤ 2 ^ 52) : AtMost (x / y) r := by
  obtain ⟨v, hv, hvp⟩ := hx
  have hquotient : v / q ≤ r := (div_le_div_of_nonneg_right hvp hpos.le).trans hle
  exact (Rounds.div hv hy hpos (hquotient.trans hsmall)).atMost hr hquotient

theorem isDouble_natCast {n : ℕ} (hn : n < 2 ^ 53) : IsDouble n :=
  ⟨n, 0, hn, by norm_num, by simp⟩

/-- A power of ten from the table that literals are read with. -/
theorem hasValue_ofBits {b : UInt64} {m : ℕ} {e : ℤ} (hm : 0 < m) (h : IsStored m e)
    (hb : Float.ofBits b = .ofModel (.pack (.finite .positive m e hm))) :
    HasValue (Float.ofBits b) (m * 2 ^ e) := by
  rw [hb]
  exact .of_pack (.finite hm h)

theorem hasValue_oneBits : HasValue (Float.ofBits 0x3FF0000000000000) 1 := by
  have h := hasValue_ofBits (m := 2 ^ 52) (e := -52) (b := 0x3FF0000000000000) (by decide)
    ⟨by decide, by decide, by decide, .inl le_rfl⟩ rfl
  norm_num at h
  exact h

theorem hasValue_tenBits : HasValue (Float.ofBits 0x4024000000000000) 10 := by
  have h := hasValue_ofBits (m := 5 * 2 ^ 50) (e := -49) (b := 0x4024000000000000) (by decide)
    ⟨by decide, by decide, by decide, .inl (by decide)⟩ rfl
  norm_num at h
  exact h

theorem hasValue_toUInt64 {n : ℕ} (hn : n ≤ 2 ^ 52) : HasValue n.toUInt64.toFloat n := by
  have hsmall : ((n : ℤ) : ℚ) * 2 ^ (0 : ℤ) ≤ 2 ^ 52 := by
    rw [zpow_zero, mul_one, Int.cast_natCast]
    exact_mod_cast hn
  have hround := Rounds.of_pack (rounds_normalize (Int.natCast_nonneg n) hsmall)
  rw [zpow_zero, mul_one, Int.cast_natCast] at hround
  have hfloat : n.toUInt64.toFloat =
      .ofModel (.pack (UnpackedFloat.normalize .binary64 (n : ℤ) 0 .positive)) := by
    change Float.ofModel
      (.pack (UnpackedFloat.normalize .binary64 (n.toUInt64.toNat : ℤ) 0 .positive)) = _
    rw [Nat.toUInt64_eq, UInt64.toNat_ofNat_of_lt' (by rw [UInt64.size]; omega)]
  rw [hfloat]
  exact hround.exact (isDouble_natCast (by omega))

theorem hasValue_ofNat {n : ℕ} (hn : n ≤ 2 ^ 52) : HasValue (Float.ofNat n) n := by
  have hlt : n < 2 ^ 53 := by omega
  have hfloat : Float.ofNat n = n.toUInt64.toFloat * Float.ofBits 0x3FF0000000000000 := by
    change (if h : n < 2 ^ 53 ∧ 0 ≤ 22 then _ else _) = _
    rw [dif_pos ⟨hlt, by decide⟩]
    rfl
  have hsmall : (n : ℚ) * 1 ≤ 2 ^ 52 := by
    rw [mul_one]
    exact_mod_cast hn
  have hround := Rounds.mul (hasValue_toUInt64 hn) hasValue_oneBits hsmall
  rw [mul_one] at hround
  rw [hfloat]
  exact hround.exact (isDouble_natCast hlt)

/-- A tenth is stored as no more than seven times a sixty-fourth. -/
theorem atMost_tenth : AtMost 0.1 (7 / 64) := by
  have hfloat : (0.1 : Float) = (1 : ℕ).toUInt64.toFloat / Float.ofBits 0x4024000000000000 := rfl
  rw [hfloat]
  refine ((hasValue_toUInt64 (n := 1) (by decide)).atMost le_rfl).div hasValue_tenBits
    (by norm_num) ⟨7, -6, by norm_num, by norm_num, by norm_num⟩ ?_ ?_
  · norm_num
  · norm_num

end Doubles

section Order

/-- Stored numbers are in the order of their exponents first, as a full significand stands with
every exponent but the least. -/
theorem IsStored.lex_of_lt {m n : ℕ} {e f : ℤ} (h : IsStored m e) (h' : IsStored n f)
    (hlt : (m : ℚ) * 2 ^ e < n * 2 ^ f) : e < f ∨ e = f ∧ m < n := by
  rcases lt_trichotomy e f with hef | rfl | hef
  · exact .inl hef
  · exact .inr ⟨rfl, by exact_mod_cast lt_of_mul_lt_mul_right hlt (two_zpow_pos e).le⟩
  · have hfull : 2 ^ 52 ≤ m := h.full.resolve_right (by have := h'.low; omega)
    have hm : (2 : ℚ) ^ 52 ≤ m := by exact_mod_cast hfull
    have hn : (n : ℚ) < 2 ^ 53 := by exact_mod_cast h'.small
    have hunit : (2 : ℚ) ^ (f + 1) ≤ 2 ^ e := zpow_le_zpow_right₀ (by norm_num) hef
    refine absurd hlt (not_lt.mpr ?_)
    calc (n : ℚ) * 2 ^ f ≤ 2 ^ 53 * 2 ^ f := mul_le_mul_of_nonneg_right hn.le (two_zpow_pos f).le
      _ = 2 ^ 52 * 2 ^ (f + 1) := by rw [zpow_add_one₀ (by norm_num)]; ring
      _ ≤ m * 2 ^ e := mul_le_mul hm hunit (two_zpow_pos _).le (Nat.cast_nonneg m)

theorem UnpackedHasValue.rank_lt {u v : UnpackedFloat} {p q : ℚ} (hu : UnpackedHasValue u p)
    (hv : UnpackedHasValue v q) (hlt : p < q) : unpackedRank u < unpackedRank v := by
  cases hv with
  | zero s => exact absurd hlt (not_lt.mpr hu.nonneg)
  | @finite n f hn h' =>
    cases hu with
    | zero s => exact Prod.Lex.toLex_lt_toLex.mpr (.inl (show (0 : ℤ) < 1 by decide))
    | @finite m e hm h =>
      refine Prod.Lex.toLex_lt_toLex.mpr (.inr ⟨rfl, Prod.Lex.toLex_lt_toLex.mpr ?_⟩)
      exact (h.lex_of_lt h' hlt).imp_right fun hm => ⟨hm.1, Int.ofNat_lt.mpr hm.2⟩

theorem UnpackedHasValue.isNaN {u : UnpackedFloat} {q : ℚ} (h : UnpackedHasValue u q) :
    u.isNaN = false := by
  cases h with
  | zero s | finite hm h => rfl

/-- Numbers are in the order of their values. -/
theorem HasValue.lt {x y : Float} {p q : ℚ} (hx : HasValue x p) (hy : HasValue y q) (hlt : p < q) :
    x < y :=
  (lt_iff (UnpackedHasValue.isNaN hx) (UnpackedHasValue.isNaN hy)).mpr
    (UnpackedHasValue.rank_lt hx hy hlt)

theorem AtMost.lt {x y : Float} {p q : ℚ} (hx : AtMost x p) (hy : HasValue y q) (hlt : p < q) :
    x < y := by
  obtain ⟨v, hv, hle⟩ := hx
  exact hv.lt hy (hle.trans_lt hlt)

end Order

/-- A number between a half and one is a multiple of `2 ^ (-53)`. -/
theorem HasValue.exists_lack {x : Float} {v : ℚ} (h : HasValue x v) (hlow : 1 / 2 < v)
    (hhigh : v < 1) : ∃ k : ℕ, k < 2 ^ 52 ∧ 1 - v = k * 2 ^ (-53 : ℤ) := by
  unfold HasValue at h
  generalize x.toModel.unpack = u at h
  cases h with
  | zero s => norm_num at hlow
  | @finite m e hm h =>
    have hsmall : (m : ℚ) < 2 ^ 53 := by exact_mod_cast h.small
    have he : e = -53 := by
      refine le_antisymm ?_ ?_
      · by_contra hlt
        have hfull : (2 : ℚ) ^ 52 ≤ m := by
          exact_mod_cast h.full.resolve_right (by omega)
        have hunit : (2 : ℚ) ^ (-52 : ℤ) ≤ 2 ^ e := zpow_le_zpow_right₀ (by norm_num) (by omega)
        have hone : (2 : ℚ) ^ 52 * 2 ^ (-52 : ℤ) ≤ m * 2 ^ e :=
          mul_le_mul hfull hunit (two_zpow_pos _).le (Nat.cast_nonneg m)
        norm_num at hone
        linarith
      · by_contra hlt
        have hunit : (2 : ℚ) ^ e ≤ 2 ^ (-54 : ℤ) := zpow_le_zpow_right₀ (by norm_num) (by omega)
        have hhalf : (m : ℚ) * 2 ^ e ≤ 2 ^ 53 * 2 ^ (-54 : ℤ) :=
          mul_le_mul hsmall.le hunit (two_zpow_pos _).le (by norm_num)
        norm_num at hhalf
        linarith
    subst he
    have hm' : 2 ^ 52 < m := by
      have hunit : (2 : ℚ) ^ (-53 : ℤ) = 1 / 2 ^ 53 := by norm_num
      rw [hunit] at hlow
      have hlow : (2 : ℚ) ^ 52 < m := by linarith
      exact_mod_cast hlow
    refine ⟨2 ^ 53 - m, by have := h.small; omega, ?_⟩
    rw [Nat.cast_sub h.small.le]
    norm_num
    ring

end BankQuery.Number
