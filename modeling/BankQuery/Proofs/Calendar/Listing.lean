import Mathlib.Data.List.Chain
import BankQuery.Proofs.Calendar.Months

/-!
# Listing a range

A range is listed from its first month on, one month at a time, until the stop is passed. At the end
of the calendar there is no further month, a shift stays where it is, and the listing ends there as
well. `DateRange.lists_months` says that every listing ends; `DateRange.months_ofEnds` says that the
listing of a range between two dates holds each of its months once and in order.
-/

namespace BankQuery

def Date.NextMonth (c d : Date) : Prop :=
  d.day = 1 ∧ ((d.year = c.year ∧ d.month = c.month + 1) ∨
    (d.year = c.year + 1 ∧ c.month = 12 ∧ d.month = 1))

namespace Date

theorem nextMonth_iff {c d : Date} : NextMonth c d ↔ d.day = 1 ∧ d.monthIndex = c.monthIndex + 1 := by
  have hc := c.month_mem
  have hd := d.month_mem
  unfold NextMonth monthIndex
  omega

/-- A shift that leaves the calendar does nothing, any other one counts on from the month. -/
theorem shift_cases (d : Date) (delta : Int) :
    d.shift delta = d ∨ (d.shift delta).monthIndex = d.monthIndex + delta := by
  unfold shift
  dsimp only
  cases hparts : ofParts? ((d.monthIndex + delta) / 12) (((d.monthIndex + delta) % 12).toNat + 1)
      (Nat.min d.day (daysInMonth ((d.monthIndex + delta) / 12)
        (((d.monthIndex + delta) % 12).toNat + 1))) with
  | none => exact .inl rfl
  | some e =>
    right
    obtain ⟨hyear, hmonth, -⟩ := of_ofParts? hparts
    rw [Option.getD_some, monthIndex, hyear, hmonth]
    omega

theorem lt_of_monthIndex_lt {a b : Date} (h : a.monthIndex < b.monthIndex) : a < b := by
  have ha := daysInMonth_le a.year a.month
  have hday := a.day_mem
  change a.key < b.key
  unfold key
  omega

end Date

namespace DateRange

open Date

/-- What the listing up to `stop` gives from a date on, when it ends: nothing behind the stop, the
date by itself where no month follows, and else the date and what the next month gives. -/
inductive Lists (stop : Date) : Date → List Date → Prop where
  | behind {d : Date} (h : ¬ d ≤ stop) : Lists stop d []
  | last {d : Date} (h : d ≤ stop) (hend : d.shift 1 = d) : Lists stop d [d]
  | next {d : Date} {ms : List Date} (h : d ≤ stop) (hgoes : d.shift 1 ≠ d)
      (hrest : Lists stop (d.shift 1) ms) : Lists stop d (d :: ms)

theorem Lists.unique {stop d : Date} {ms ns : List Date} (hm : Lists stop d ms)
    (hn : Lists stop d ns) : ns = ms := by
  induction hm generalizing ns with
  | behind h =>
    cases hn with
    | behind => rfl
    | last h' => exact absurd h' h
    | next h' => exact absurd h' h
  | last h hend =>
    cases hn with
    | behind h' => exact absurd h h'
    | last => rfl
    | next _ hgoes => exact absurd hend hgoes
  | next h hgoes _ ih =>
    cases hn with
    | behind h' => exact absurd h h'
    | last _ hend => exact absurd hend hgoes
    | next _ _ hrest => rw [ih hrest]

/-- The count of steps is no limit: with one for each month up to the stop, the listing comes to its
end. -/
theorem lists_monthsFrom {stop d : Date} {n : Nat}
    (hn : (stop.monthIndex - d.monthIndex + 1).toNat ≤ n) : Lists stop d (monthsFrom stop n d) := by
  induction n generalizing d with
  | zero =>
    have hlt : stop < d := lt_of_monthIndex_lt (by omega)
    exact .behind (Int.not_le.mpr hlt)
  | succ n ih =>
    rw [monthsFrom]
    by_cases hle : d ≤ stop
    · rw [if_pos hle]
      by_cases hend : d.shift 1 = d
      · rw [if_pos hend]
        exact .last hle hend
      · have hnext := (d.shift_cases 1).resolve_left hend
        rw [if_neg hend]
        exact .next hle hend (ih (by omega))
    · rw [if_neg hle]
      exact .behind hle

/-- Every range has a listing, also one that was read from outside. -/
theorem lists_months (r : DateRange) : Lists r.stop r.start r.months :=
  lists_monthsFrom (Nat.le_refl _)

section FirstDays

variable {stop d : Date} {ms : List Date} (h : Lists stop d ms)

include h

theorem Lists.head?_eq (hle : d ≤ stop) : ms.head? = some d := by
  cases h with
  | behind hn => exact absurd hle hn
  | last | next => rfl

theorem Lists.eq_nil (hlt : stop < d) : ms = [] := by
  have hn : ¬ d ≤ stop := Int.not_le.mpr hlt
  cases h with
  | behind => rfl
  | last h' | next h' => exact absurd h' hn

theorem Lists.getLast?_eq (hstop : stop.day = 1) (hd : d.day = 1) (hle : d ≤ stop) :
    ms.getLast? = some stop := by
  induction h with
  | behind hn => exact absurd hle hn
  | @last d _ hend =>
    have hmonth := (shift_one_eq_self_iff hd).mp hend
    have hlast := stop.monthIndex_mem.2
    have hmonths := (le_iff_monthIndex hd hstop).mp hle
    rw [List.getLast?_singleton, eq_of_monthIndex hd hstop (by omega)]
  | @next d ms _ hgoes hrest ih =>
    have hday := shift_day hd 1
    have hnext := (d.shift_cases 1).resolve_left hgoes
    have hmonths := (le_iff_monthIndex hd hstop).mp hle
    by_cases hgo : d.shift 1 ≤ stop
    · obtain ⟨ms, rfl⟩ := List.head?_eq_some_iff.mp (hrest.head?_eq hgo)
      rw [List.getLast?_cons_cons]
      exact ih hday hgo
    · -- The next month is behind the stop, so this one is the stop.
      have hbehind : stop < d.shift 1 := Int.not_le.mp hgo
      have hmonth := (lt_iff_monthIndex hstop hday).mp hbehind
      rw [hrest.eq_nil hbehind, List.getLast?_singleton, eq_of_monthIndex hd hstop (by omega)]

theorem Lists.isChain_nextMonth (hd : d.day = 1) : ms.IsChain NextMonth := by
  induction h with
  | behind => exact .nil
  | last => exact .singleton _
  | @next d ms _ hgoes hrest ih =>
    have hday := shift_day hd 1
    have hnext := (d.shift_cases 1).resolve_left hgoes
    refine List.isChain_cons.mpr ⟨fun e he => ?_, ih hday⟩
    by_cases hgo : d.shift 1 ≤ stop
    · rw [hrest.head?_eq hgo, Option.mem_some_iff] at he
      rw [← he]
      exact nextMonth_iff.mpr ⟨hday, hnext⟩
    · rw [hrest.eq_nil (Int.not_le.mp hgo)] at he
      cases he

end FirstDays

theorem contains_iff {r : DateRange} (h : r.IsMonthly) (d : Date) :
    r.contains d = true ↔ d.monthStart ∈ r.months := by
  rw [mem_months h, contains, Bool.and_eq_true, decide_eq_true_iff, decide_eq_true_iff]
  exact (and_iff_right d.monthStart_day).symm

/-- The range between two dates has one listing. It goes in strict order from the start of the range
to its stop, each month being followed by the next one, and has as many months as are counted. A
date lies in the range if and only if its month is listed. -/
theorem months_ofEnds (a b : Date) :
    (∀ ms, Lists (ofEnds a b).stop (ofEnds a b).start ms ↔ ms = (ofEnds a b).months) ∧
    (ofEnds a b).months.Pairwise (· < ·) ∧
    (ofEnds a b).months.head? = some (ofEnds a b).start ∧
    (ofEnds a b).months.getLast? = some (ofEnds a b).stop ∧
    (ofEnds a b).months.length = (ofEnds a b).monthCount ∧
    (ofEnds a b).months.IsChain NextMonth ∧
    ∀ d, (ofEnds a b).contains d = true ↔ d.monthStart ∈ (ofEnds a b).months := by
  have hr := isMonthly_ofEnds a b
  generalize ofEnds a b = r at hr ⊢
  have hlists := lists_months r
  refine ⟨fun ms => ⟨hlists.unique, fun he => he ▸ hlists⟩, pairwise_months hr,
    hlists.head?_eq hr.start_le_stop, ?_, length_months hr, hlists.isChain_nextMonth hr.start_day,
    contains_iff hr⟩
  exact hlists.getLast?_eq hr.stop_day hr.start_day hr.start_le_stop

end DateRange

end BankQuery
