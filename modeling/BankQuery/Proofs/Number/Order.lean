import Mathlib.Data.Prod.Lex

/-!
# The order of binary numbers

Numbers in double precision are told apart by their sign, then by their exponent and then by their
significand. `rank` lists these from the most to the least significant, so that numbers are in order
exactly if their ranks are in the order of a dictionary. `singleRank` does the same for numbers in
single precision.
-/

namespace BankQuery.Number

open Float.Model (UnpackedFloat)

/-- Sign, exponent and significand. Below zero a greater exponent comes first; what is no number is
given the place of zero. -/
def unpackedRank : UnpackedFloat → ℤ ×ₗ ℤ ×ₗ ℤ
  | .infinity .negative => toLex (-2, toLex (0, 0))
  | .finite .negative m e _ => toLex (-1, toLex (-e, -m))
  | .zero _ | .notANumber => toLex (0, toLex (0, 0))
  | .finite .positive m e _ => toLex (1, toLex (e, m))
  | .infinity .positive => toLex (2, toLex (0, 0))

def rank (x : Float) : ℤ ×ₗ ℤ ×ₗ ℤ := unpackedRank x.toModel.unpack

theorem unpackedLt_iff {a b : UnpackedFloat} (ha : a.isNaN = false) (hb : b.isNaN = false) :
    a.lt b = true ↔ unpackedRank a < unpackedRank b := by
  cases a with
  | notANumber => cases ha
  | infinity s | zero s =>
    cases b with
    | notANumber => cases hb
    | infinity s' | zero s' => cases s <;> cases s' <;> decide
    | finite s' m e hm =>
      -- Neither the exponent nor the significand counts.
      cases s <;> cases s' <;>
        dsimp only [UnpackedFloat.lt, UnpackedFloat.compare, unpackedRank] <;>
        simp [Prod.Lex.toLex_lt_toLex]
  | finite s m e hm =>
    cases b with
    | notANumber => cases hb
    | infinity s' | zero s' =>
      cases s <;> cases s' <;>
        dsimp only [UnpackedFloat.lt, UnpackedFloat.compare, unpackedRank] <;>
        simp [Prod.Lex.toLex_lt_toLex]
    | finite s' m' e' hm' =>
      -- Of one sign, the exponents decide before the significands.
      cases s <;> cases s' <;>
        dsimp only [UnpackedFloat.lt, UnpackedFloat.compare, unpackedRank] <;>
        simp [Prod.Lex.toLex_lt_toLex, Ordering.then_eq_lt, Ordering.then_eq_gt, Int.compare_eq_lt,
          Int.compare_eq_gt, Nat.compare_eq_lt, Nat.compare_eq_gt]

theorem isNaN_of_compare {a b : UnpackedFloat} {o : Ordering} (h : a.compare b = some o) :
    a.isNaN = false ∧ b.isNaN = false := by
  cases a with
  | notANumber => cases h
  | infinity s | zero s | finite s =>
    cases b with
    | notANumber => cases s <;> cases h
    | infinity s' | zero s' | finite s' => exact ⟨rfl, rfl⟩

theorem compare_swap (a b : UnpackedFloat) : b.compare a = (a.compare b).map Ordering.swap := by
  cases a with
  | notANumber => cases b <;> rfl
  | infinity s | zero s =>
    cases b with
    | notANumber => cases s <;> rfl
    | infinity s' | zero s' | finite s' => cases s <;> cases s' <;> rfl
  | finite s m e hm =>
    cases b with
    | notANumber => cases s <;> rfl
    | infinity s' | zero s' => cases s <;> cases s' <;> rfl
    | finite s' m' e' hm' =>
      cases s <;> cases s' <;> dsimp only [UnpackedFloat.compare] <;>
        simp [Ordering.swap_then, ← Std.OrientedCmp.eq_swap]

theorem exists_compare {a b : UnpackedFloat} (ha : a.isNaN = false) (hb : b.isNaN = false) :
    ∃ o, a.compare b = some o := by
  cases a with
  | notANumber => cases ha
  | infinity s | zero s | finite s =>
    cases b with
    | notANumber => cases hb
    | infinity s' | zero s' | finite s' => cases s <;> cases s' <;> exact ⟨_, rfl⟩

theorem unpackedLe_iff {a b : UnpackedFloat} (ha : a.isNaN = false) (hb : b.isNaN = false) :
    a.le b = true ↔ unpackedRank a ≤ unpackedRank b := by
  obtain ⟨o, ho⟩ := exists_compare ha hb
  have hle : a.le b = !b.lt a := by
    rw [UnpackedFloat.le, UnpackedFloat.lt, compare_swap a b, ho]
    cases o <;> rfl
  rw [hle, Bool.not_eq_true', ← Bool.not_eq_true, unpackedLt_iff hb ha, not_lt]

theorem lt_iff {x y : Float} (hx : x.isNaN = false) (hy : y.isNaN = false) :
    x < y ↔ rank x < rank y := by
  have hmodel : x < y ↔ x.toModel.unpack.lt y.toModel.unpack = true := decide_eq_true_iff
  exact hmodel.trans (unpackedLt_iff hx hy)

section Double

variable {x y : Float}

theorem le_iff (hx : x.isNaN = false) (hy : y.isNaN = false) : x ≤ y ↔ rank x ≤ rank y := by
  have hmodel : x ≤ y ↔ x.toModel.unpack.le y.toModel.unpack = true := decide_eq_true_iff
  exact hmodel.trans (unpackedLe_iff hx hy)

theorem isNaN_of_double_lt (h : x < y) : x.isNaN = false ∧ y.isNaN = false := by
  have hmodel : x < y ↔ x.toModel.unpack.lt y.toModel.unpack = true := decide_eq_true_iff
  exact isNaN_of_compare (eq_of_beq (hmodel.mp h))

theorem le_of_double_lt (h : x < y) : x ≤ y := by
  obtain ⟨hx, hy⟩ := isNaN_of_double_lt h
  exact (le_iff hx hy).mpr ((lt_iff hx hy).mp h).le

theorem not_le_of_double_lt (h : x < y) : ¬ y ≤ x := by
  obtain ⟨hx, hy⟩ := isNaN_of_double_lt h
  exact fun hle => ((lt_iff hx hy).mp h).not_ge ((le_iff hy hx).mp hle)

end Double

def singleRank (x : Float32) : ℤ ×ₗ ℤ ×ₗ ℤ := unpackedRank x.toModel.unpack

section Single

variable {x y : Float32}

theorem single_lt_iff (hx : x.isNaN = false) (hy : y.isNaN = false) :
    x < y ↔ singleRank x < singleRank y := by
  have hmodel : x < y ↔ x.toModel.unpack.lt y.toModel.unpack = true := decide_eq_true_iff
  exact hmodel.trans (unpackedLt_iff hx hy)

theorem single_le_iff (hx : x.isNaN = false) (hy : y.isNaN = false) :
    x ≤ y ↔ singleRank x ≤ singleRank y := by
  have hmodel : x ≤ y ↔ x.toModel.unpack.le y.toModel.unpack = true := decide_eq_true_iff
  exact hmodel.trans (unpackedLe_iff hx hy)

/-- What is no number is less than nothing, and nothing is less than it. -/
theorem isNaN_of_single_lt (h : x < y) : x.isNaN = false ∧ y.isNaN = false := by
  have hmodel : x < y ↔ x.toModel.unpack.lt y.toModel.unpack = true := decide_eq_true_iff
  exact isNaN_of_compare (eq_of_beq (hmodel.mp h))

theorem single_lt_asymm (h : x < y) : ¬ y < x := by
  intro h'
  obtain ⟨hx, hy⟩ := isNaN_of_single_lt h
  exact lt_asymm ((single_lt_iff hx hy).mp h) ((single_lt_iff hy hx).mp h')

theorem isNaN_of_single_le (h : x ≤ y) : x.isNaN = false ∧ y.isNaN = false := by
  have hmodel : x ≤ y ↔ x.toModel.unpack.le y.toModel.unpack = true := decide_eq_true_iff
  obtain ⟨o, ho, -⟩ := (Option.any_eq_true _ _).mp (hmodel.mp h)
  exact isNaN_of_compare ho

end Single

end BankQuery.Number
