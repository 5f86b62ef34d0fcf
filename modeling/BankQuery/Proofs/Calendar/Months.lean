import BankQuery.Proofs.Calendar.Range

/-!
# Months of the calendar

First days of months are ordered as their months are counted, and each number between those of the
first and the last month of the calendar is the number of one of them. A shift of the first day of a
month adds to the number, or does nothing where that would leave the calendar. The months of a range
are therefore listed without a gap: `DateRange.mem_months`, `DateRange.pairwise_months`.
-/

namespace BankQuery

namespace Date

def firstIndex : Int := firstYear * 12

def lastIndex : Int := lastYear * 12 + 11

theorem monthIndex_mem (d : Date) : firstIndex ≤ d.monthIndex ∧ d.monthIndex ≤ lastIndex := by
  have hyear := d.year_mem
  have hmonth := d.month_mem
  unfold firstIndex lastIndex monthIndex
  omega

theorem daysInMonth_le (y : Int) (m : Nat) : daysInMonth y m ≤ 31 := by
  unfold daysInMonth
  split <;> split <;> simp

/-- Dates are told apart by their keys. -/
theorem eq_of_key {a b : Date} (h : a.key = b.key) : a = b := by
  have hmonths := a.month_mem
  have hmonths' := b.month_mem
  have hdays := a.day_mem
  have hdays' := b.day_mem
  have hle := daysInMonth_le a.year a.month
  have hle' := daysInMonth_le b.year b.month
  unfold key monthIndex at h
  have hyear : a.year = b.year := by omega
  have hmonth : a.month = b.month := by omega
  have hday : a.day = b.day := by omega
  cases a
  cases b
  rw [Date.mk.injEq]
  exact ⟨hyear, hmonth, hday⟩

theorem lt_of_le_of_ne {a b : Date} (h : a ≤ b) (hne : a ≠ b) : a < b :=
  Int.lt_iff_le_and_ne.mpr ⟨h, fun he => hne (eq_of_key he)⟩

section FirstDays

variable {a b d : Date}

theorem eq_of_monthIndex (ha : a.day = 1) (hb : b.day = 1) (h : a.monthIndex = b.monthIndex) :
    a = b := by
  apply eq_of_key
  rw [key, key, h, ha, hb]

theorem le_iff_monthIndex (ha : a.day = 1) (hb : b.day = 1) :
    a ≤ b ↔ a.monthIndex ≤ b.monthIndex := by
  change a.key ≤ b.key ↔ _
  unfold key
  omega

theorem lt_iff_monthIndex (ha : a.day = 1) (hb : b.day = 1) :
    a < b ↔ a.monthIndex < b.monthIndex := by
  change a.key < b.key ↔ _
  unfold key
  omega

@[simp] theorem monthStart_day (d : Date) : d.monthStart.day = 1 := rfl

@[simp] theorem monthIndex_monthStart (d : Date) : d.monthStart.monthIndex = d.monthIndex := rfl

theorem monthStart_of_day (hd : d.day = 1) : d.monthStart = d :=
  eq_of_monthIndex rfl hd rfl

/-- Parts that are those of a first day of a month are a date. -/
theorem exists_ofParts? {year : Int} {month : Nat} (hyear : firstYear ≤ year ∧ year ≤ lastYear)
    (hmonth : 1 ≤ month ∧ month ≤ 12) : ∃ d, ofParts? year month 1 = some d ∧ d.year = year ∧
      d.month = month ∧ d.day = 1 :=
  ⟨_, dif_pos ⟨hyear, hmonth, Nat.le_refl 1, one_le_daysInMonth year month⟩, rfl, rfl, rfl⟩

theorem of_ofParts? {year : Int} {month day : Nat} (h : ofParts? year month day = some d) :
    d.year = year ∧ d.month = month ∧ d.day = day := by
  unfold ofParts? at h
  split at h
  · cases h
    exact ⟨rfl, rfl, rfl⟩
  · cases h

theorem shift_of_day (hd : d.day = 1) (delta : Int) : d.shift delta = (ofParts?
    ((d.monthIndex + delta) / 12) (((d.monthIndex + delta) % 12).toNat + 1) 1).getD d := by
  unfold shift
  rw [hd]
  dsimp only
  rw [show Nat.min 1 (daysInMonth _ _) = 1 from Nat.min_eq_left (one_le_daysInMonth _ _)]

/-- A shift within the calendar counts on from the month. -/
theorem monthIndex_shift {delta : Int} (hd : d.day = 1)
    (h : firstIndex ≤ d.monthIndex + delta ∧ d.monthIndex + delta ≤ lastIndex) :
    (d.shift delta).day = 1 ∧ (d.shift delta).monthIndex = d.monthIndex + delta := by
  unfold firstIndex lastIndex at h
  have hyears : firstYear ≤ (d.monthIndex + delta) / 12 ∧
      (d.monthIndex + delta) / 12 ≤ lastYear := by omega
  have hmonths : 1 ≤ ((d.monthIndex + delta) % 12).toNat + 1 ∧
      ((d.monthIndex + delta) % 12).toNat + 1 ≤ 12 := by omega
  obtain ⟨d', hparts, hyear, hmonth, hday⟩ := exists_ofParts? hyears hmonths
  rw [shift_of_day hd, hparts, Option.getD_some]
  refine ⟨hday, ?_⟩
  rw [monthIndex, hyear, hmonth]
  omega

/-- A shift out of the calendar does nothing. -/
theorem shift_eq_self {delta : Int} (hd : d.day = 1)
    (h : d.monthIndex + delta < firstIndex ∨ lastIndex < d.monthIndex + delta) :
    d.shift delta = d := by
  unfold firstIndex lastIndex at h
  rw [shift_of_day hd, ofParts?, dif_neg, Option.getD_none]
  rintro ⟨hyear, -, -⟩
  omega

theorem shift_day (hd : d.day = 1) (delta : Int) : (d.shift delta).day = 1 := by
  by_cases h : firstIndex ≤ d.monthIndex + delta ∧ d.monthIndex + delta ≤ lastIndex
  · exact (monthIndex_shift hd h).1
  · rw [shift_eq_self hd (by omega)]
    exact hd

/-- The next month is the same one only at the end of the calendar. -/
theorem shift_one_eq_self_iff (hd : d.day = 1) : d.shift 1 = d ↔ d.monthIndex = lastIndex := by
  have hmem := d.monthIndex_mem
  constructor
  · intro h
    refine Decidable.byContradiction fun hne => ?_
    obtain ⟨-, hnext⟩ : _ ∧ (d.shift 1).monthIndex = _ := monthIndex_shift hd (by omega)
    rw [h] at hnext
    omega
  · intro h
    exact shift_eq_self hd (by omega)

end FirstDays

def monthsUpTo (d : Date) : Nat := (d.monthIndex - firstIndex + 1).toNat

def monthsAfter (d : Date) : Nat := (lastIndex - d.monthIndex).toNat

theorem cast_monthsUpTo (d : Date) : (d.monthsUpTo : Int) = d.monthIndex - firstIndex + 1 :=
  Int.toNat_of_nonneg (by have := d.monthIndex_mem; omega)

theorem cast_monthsAfter (d : Date) : (d.monthsAfter : Int) = lastIndex - d.monthIndex :=
  Int.toNat_of_nonneg (by have := d.monthIndex_mem; omega)

theorem monthsUpTo_add_monthsAfter (d : Date) : d.monthsUpTo + d.monthsAfter = 6291432 := by
  have hup := d.cast_monthsUpTo
  have hafter := d.cast_monthsAfter
  have hall : lastIndex - firstIndex = 6291431 := rfl
  omega

end Date

namespace DateRange

open Date

section Ends

variable {a b : Date}

theorem ofEnds_of_le (ha : a.day = 1) (hb : b.day = 1) (h : a.monthIndex ≤ b.monthIndex) :
    ofEnds a b = ⟨a, b⟩ := by
  unfold ofEnds
  rw [monthStart_of_day ha, monthStart_of_day hb, if_pos ((le_iff_monthIndex ha hb).mpr h)]

theorem ofEnds_of_lt (ha : a.day = 1) (hb : b.day = 1) (h : b.monthIndex < a.monthIndex) :
    ofEnds a b = ⟨b, a⟩ := by
  have hn : ¬ a ≤ b := by
    rw [le_iff_monthIndex ha hb]
    omega
  unfold ofEnds
  rw [monthStart_of_day ha, monthStart_of_day hb, if_neg hn]

end Ends

section Listing

variable {stop d : Date}

/-- The months that are listed are numbered without a gap. -/
theorem map_monthIndex_monthsFrom (hstop : stop.day = 1) (hd : d.day = 1) {n : Nat}
    (hn : n = (stop.monthIndex - d.monthIndex + 1).toNat) :
    (monthsFrom stop n d).map monthIndex = (List.range n).map fun i : Nat => d.monthIndex + i := by
  induction n generalizing d with
  | zero => rfl
  | succ n ih =>
    have hle : d ≤ stop := (le_iff_monthIndex hd hstop).mpr (by omega)
    have hlast := stop.monthIndex_mem.2
    rw [monthsFrom, if_pos hle, List.range_succ_eq_map, List.map_cons, List.map_map]
    by_cases hend : d.shift 1 = d
    · have hmonth := (shift_one_eq_self_iff hd).mp hend
      obtain rfl : n = 0 := by omega
      rw [if_pos hend]
      simp
    · have hmonth := mt (shift_one_eq_self_iff hd).mpr hend
      have hmem := d.monthIndex_mem
      obtain ⟨hday, hnext⟩ : (d.shift 1).day = 1 ∧ _ := monthIndex_shift hd (by omega)
      rw [if_neg hend, List.map_cons, ih hday (by omega), hnext]
      simp [Function.comp_def, Int.add_assoc, Int.add_comm 1]

theorem day_of_mem_monthsFrom {n : Nat} (hd : d.day = 1) :
    ∀ m ∈ monthsFrom stop n d, m.day = 1 := by
  induction n generalizing d with
  | zero => exact fun _ hm => nomatch hm
  | succ n ih =>
    rw [monthsFrom]
    split
    · split
      · exact List.forall_mem_singleton.mpr hd
      · exact List.forall_mem_cons.mpr ⟨hd, ih (shift_day hd 1)⟩
    · exact fun _ hm => nomatch hm

end Listing

section Months

variable {r : DateRange} (h : r.IsMonthly)

include h

theorem map_monthIndex_months : r.months.map monthIndex =
    (List.range r.monthCount).map fun i : Nat => r.start.monthIndex + i :=
  map_monthIndex_monthsFrom h.stop_day h.start_day rfl

theorem length_months : r.months.length = r.monthCount := by
  have hlength := congrArg List.length (map_monthIndex_months h)
  simpa using hlength

/-- The months of a range are the first days of months from its start to its stop. -/
theorem mem_months {d : Date} : d ∈ r.months ↔ d.day = 1 ∧ r.start ≤ d ∧ d ≤ r.stop := by
  have hday : ∀ m ∈ r.months, m.day = 1 := day_of_mem_monthsFrom h.start_day
  have hindex (i : Int) : i ∈ r.months.map monthIndex ↔
      r.start.monthIndex ≤ i ∧ i ≤ r.stop.monthIndex := by
    rw [map_monthIndex_months h, List.mem_map]
    simp only [List.mem_range, monthCount]
    constructor
    · rintro ⟨n, hn, rfl⟩
      omega
    · rintro ⟨hlow, hhigh⟩
      exact ⟨(i - r.start.monthIndex).toNat, by omega, by omega⟩
  constructor
  · intro hd
    have hbounds := (hindex d.monthIndex).mp (List.mem_map_of_mem hd)
    exact ⟨hday d hd, (le_iff_monthIndex h.start_day (hday d hd)).mpr hbounds.1,
      (le_iff_monthIndex (hday d hd) h.stop_day).mpr hbounds.2⟩
  · rintro ⟨hd, hstart, hstop⟩
    obtain ⟨m, hm, he⟩ := List.mem_map.mp ((hindex d.monthIndex).mpr
      ⟨(le_iff_monthIndex h.start_day hd).mp hstart, (le_iff_monthIndex hd h.stop_day).mp hstop⟩)
    rwa [← eq_of_monthIndex (hday m hm) hd he]

theorem pairwise_months : r.months.Pairwise (· < ·) := by
  have hday : ∀ m ∈ r.months, m.day = 1 := day_of_mem_monthsFrom h.start_day
  have hindex : (r.months.map monthIndex).Pairwise (· < ·) := by
    rw [map_monthIndex_months h, List.pairwise_map]
    exact List.pairwise_lt_range.imp fun hij => by omega
  refine (List.pairwise_map.mp hindex).imp_of_mem fun ha hb hlt => ?_
  exact (lt_iff_monthIndex (hday _ ha) (hday _ hb)).mpr hlt

end Months

end DateRange

end BankQuery
