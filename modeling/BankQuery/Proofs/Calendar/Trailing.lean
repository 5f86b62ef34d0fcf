import Mathlib.Algebra.Group.Int.Defs
import Mathlib.Algebra.Group.Nat.Defs
import BankQuery.Proofs.Calendar.Months

/-!
# Trailing months

A number of months up to a given one is counted back in machine words. `DateRange.trailing_counts`
says for which numbers the range ends at the given month: all but the largest, for which the word
wraps around and the months are counted forward.
-/

namespace BankQuery.DateRange

open Date

/-- One less than a word, turned around, is the remainder nearest to zero. -/
theorem toInt_back (n : UInt32) :
    (-(n.toInt32 - 1)).toInt = (1 - (n.toNat : Int)).bmod (2 ^ 32) := by
  have hn : n.toInt32.toInt = (n.toNat : Int).bmod (2 ^ 32) :=
    BitVec.toInt_eq_toNat_bmod n.toBitVec
  have hone : (1 : Int32).toInt = 1 := rfl
  have hturn : 1 - (n.toNat : Int) = -(n.toNat - 1) := by omega
  rw [Int32.toInt_neg, Int32.toInt_sub, hn, hone, Int.bmod_sub_bmod, hturn, ← Int.zero_sub,
    ← Int.zero_sub, Int.sub_bmod_bmod]

variable (stop : Date) (months : UInt32)

theorem toNat_atLeastOne :
    (if months = 0 then (1 : UInt32) else months).toNat = max months.toNat 1 := by
  by_cases hzero : months = 0
  · rw [hzero]
    rfl
  · have hpos : months.toNat ≠ 0 := fun h => hzero (UInt32.toNat_inj.mp h)
    rw [if_neg hzero]
    omega

theorem trailing_eq : trailing stop months = ofEnds
    (stop.monthStart.shift ((1 - (max months.toNat 1 : Nat) : Int).bmod (2 ^ 32)))
    stop.monthStart := by
  rw [trailing, toInt_back, toNat_atLeastOne]

/-- The range goes back as far as asked for; it is a single month where the calendar does not go
back that far; and it goes forward where the word wraps around and the calendar goes on that far. -/
theorem trailing_cases :
    (max months.toNat 1 ≤ stop.monthsUpTo ∧ ∃ first : Date,
      first.monthIndex = stop.monthIndex + 1 - (max months.toNat 1 : Nat) ∧
        trailing stop months = ⟨first, stop.monthStart⟩) ∨
    (stop.monthsUpTo < max months.toNat 1 ∧ months.toNat + stop.monthsAfter ≤ 2 ^ 32 ∧
      trailing stop months = ⟨stop.monthStart, stop.monthStart⟩) ∨
    (2 ^ 32 < months.toNat + stop.monthsAfter ∧ ∃ last : Date,
      last.monthIndex = stop.monthIndex + (2 ^ 32 + 1 - months.toNat) ∧
        trailing stop months = ⟨stop.monthStart, last⟩) := by
  have hday := stop.monthStart_day
  have hindex := stop.monthIndex_monthStart
  have hup := stop.cast_monthsUpTo
  have hafter := stop.cast_monthsAfter
  have hall := stop.monthsUpTo_add_monthsAfter
  have hlt := months.toNat_lt
  have hr := trailing_eq stop months
  generalize hn : max months.toNat 1 = n at hr ⊢
  by_cases hback : n ≤ stop.monthsUpTo
  · have hdelta : (1 - (n : Int)).bmod (2 ^ 32) = 1 - n := Int.bmod_eq_of_le (by omega) (by omega)
    obtain ⟨hfirst, hnumber⟩ : (stop.monthStart.shift (1 - n)).day = 1 ∧ _ :=
      monthIndex_shift hday (by omega)
    rw [hdelta, ofEnds_of_le hfirst hday (by omega)] at hr
    exact .inl ⟨hback, _, by omega, hr⟩
  · by_cases hword : months.toNat + stop.monthsAfter ≤ 2 ^ 32
    · have hout : stop.monthStart.shift ((1 - (n : Int)).bmod (2 ^ 32)) = stop.monthStart := by
        apply shift_eq_self hday
        rw [Int.bmod_def]
        split <;> omega
      rw [hout, ofEnds_of_le hday hday (Int.le_refl _)] at hr
      exact .inr (.inl ⟨by omega, hword, hr⟩)
    · have hdelta : (1 - (n : Int)).bmod (2 ^ 32) = 2 ^ 32 + 1 - months.toNat := by
        rw [Int.bmod_def]
        split <;> omega
      obtain ⟨hlast, hnumber⟩ : (stop.monthStart.shift (2 ^ 32 + 1 - months.toNat)).day = 1 ∧ _ :=
        monthIndex_shift hday (by omega)
      rw [hdelta, ofEnds_of_lt hlast hday (by omega)] at hr
      exact .inr (.inr ⟨by omega, _, by omega, hr⟩)

theorem stop_trailing_iff : (trailing stop months).stop = stop.monthStart ↔
    months.toNat + stop.monthsAfter ≤ 2 ^ 32 := by
  have hall := stop.monthsUpTo_add_monthsAfter
  have hlt := months.toNat_lt
  rcases trailing_cases stop months with ⟨hn, first, -, hr⟩ | ⟨-, hn, hr⟩ | ⟨hn, last, hlast, hr⟩
  · rw [hr]
    exact iff_of_true rfl (by omega)
  · rw [hr]
    exact iff_of_true rfl hn
  · rw [hr]
    refine iff_of_false (fun he => ?_) (Nat.not_le.mpr hn)
    have hindex : last.monthIndex = stop.monthStart.monthIndex := congrArg monthIndex he
    rw [monthIndex_monthStart] at hindex
    omega

theorem monthCount_trailing (h : max months.toNat 1 ≤ stop.monthsUpTo) :
    (trailing stop months).monthCount = max months.toNat 1 := by
  have hall := stop.monthsUpTo_add_monthsAfter
  have hindex := stop.monthIndex_monthStart
  rcases trailing_cases stop months with ⟨-, first, hfirst, hr⟩ | ⟨hn, -⟩ | ⟨hn, -⟩
  · rw [hr, monthCount]
    dsimp only
    omega
  · omega
  · omega

theorem monthCount_trailing_le : (trailing stop months).monthCount ≤ max months.toNat 1 := by
  have hall := stop.monthsUpTo_add_monthsAfter
  have hindex := stop.monthIndex_monthStart
  rcases trailing_cases stop months with ⟨hn, -⟩ | ⟨-, -, hr⟩ | ⟨hn, last, hlast, hr⟩
  · exact Nat.le_of_eq (monthCount_trailing stop months hn)
  · rw [hr, monthCount]
    dsimp only
    omega
  · rw [hr, monthCount]
    dsimp only
    omega

/-- Where the months are counted forward, the range has two more than the word is missed by. -/
theorem trailing_of_lt (h : 2 ^ 32 < months.toNat + stop.monthsAfter) :
    (trailing stop months).start = stop.monthStart ∧
      (trailing stop months).monthCount = 2 ^ 32 + 2 - months.toNat := by
  have hall := stop.monthsUpTo_add_monthsAfter
  have hindex := stop.monthIndex_monthStart
  rcases trailing_cases stop months with ⟨hn, -⟩ | ⟨-, hn, -⟩ | ⟨-, last, hlast, hr⟩
  · omega
  · omega
  · rw [hr, monthCount]
    exact ⟨rfl, by dsimp only; omega⟩

/-- The range has whole months, and of these as many as asked for, at least one, where the calendar
goes back that far; it never has more. It stops at the month given unless the number is so close to
the end of the machine word that what it misses is less than the months left in the calendar: then
the range starts at that month and goes forward. -/
theorem trailing_counts : (trailing stop months).IsMonthly ∧
    (max months.toNat 1 ≤ stop.monthsUpTo →
      (trailing stop months).monthCount = max months.toNat 1) ∧
    (trailing stop months).monthCount ≤ max months.toNat 1 ∧
    ((trailing stop months).stop = stop.monthStart ↔
      months.toNat + stop.monthsAfter ≤ 2 ^ 32) ∧
    (2 ^ 32 < months.toNat + stop.monthsAfter → (trailing stop months).start = stop.monthStart ∧
      (trailing stop months).monthCount = 2 ^ 32 + 2 - months.toNat) :=
  ⟨isMonthly_trailing stop months, monthCount_trailing stop months,
    monthCount_trailing_le stop months, stop_trailing_iff stop months,
    trailing_of_lt stop months⟩

/-- The number that misses the word by one reaches two months ahead. -/
theorem trailing_passes_stop : ¬ ∀ (stop : Date) (months : UInt32),
    (trailing stop months).stop = stop.monthStart ∧ (trailing stop months).IsMonthly ∧
      (max months.toNat 1 ≤ stop.monthsUpTo →
        (trailing stop months).monthCount = max months.toNat 1) ∧
      (trailing stop months).monthCount ≤ max months.toNat 1 := by
  intro hall
  let february : Date := ⟨2025, 2, 17, by decide, by decide, by decide⟩
  obtain ⟨hstop, -⟩ := hall february 4294967295
  have hbeyond : (trailing february 4294967295).stop = february.monthStart.shift 2 := by decide
  rw [hbeyond] at hstop
  revert hstop
  decide

end BankQuery.DateRange
