import BankQuery.Calendar.Phrase

/-!
# Ranges of whole months

A range that a text names, and the one taken where it names none, goes from the first day of a month
to the first day of the same or a later month, whatever the anchor is.
-/

namespace BankQuery

namespace DateRange

/-- From the first day of a month to the first day of the same or a later month. -/
structure IsMonthly (r : DateRange) : Prop where
  start_le_stop : r.start ≤ r.stop
  start_day : r.start.day = 1
  stop_day : r.stop.day = 1

theorem isMonthly_ofEnds (a b : Date) : (ofEnds a b).IsMonthly := by
  unfold ofEnds
  split
  · rename_i h
    exact ⟨h, rfl, rfl⟩
  · rename_i h
    exact ⟨Int.le_of_lt (Int.not_le.mp h), rfl, rfl⟩

theorem isMonthly_ofYears? {a b : Int} {r : DateRange} (h : ofYears? a b = some r) :
    r.IsMonthly := by
  simp only [ofYears?, Option.bind_eq_bind, Option.bind_eq_some_iff] at h
  obtain ⟨start, -, stop, -, h⟩ := h
  cases h
  exact isMonthly_ofEnds start stop

theorem isMonthly_ofQuarter? {y : Int} {q : Nat} {r : DateRange} (h : ofQuarter? y q = some r) :
    r.IsMonthly := by
  simp only [ofQuarter?, Option.bind_eq_bind] at h
  split at h
  · simp only [Option.bind_eq_some_iff] at h
    obtain ⟨start, -, stop, -, h⟩ := h
    cases h
    exact isMonthly_ofEnds start stop
  · cases h

theorem isMonthly_ofMonth? {y : Int} {m : Nat} {r : DateRange} (h : ofMonth? y m = some r) :
    r.IsMonthly := by
  simp only [ofMonth?, Option.bind_eq_bind, Option.bind_eq_some_iff] at h
  obtain ⟨d, -, h⟩ := h
  cases h
  exact isMonthly_ofEnds d d

theorem isMonthly_trailing (stop : Date) (months : UInt32) : (trailing stop months).IsMonthly :=
  isMonthly_ofEnds _ _

end DateRange

namespace Phrase

open DateRange

theorem isMonthly_since? {a : Anchor} {s : String} {r : DateRange} (h : since? a s = some r) :
    r.IsMonthly := by
  simp only [since?, Option.bind_eq_bind, Option.bind_eq_some_iff] at h
  obtain ⟨m, -, h⟩ := h
  split at h
  all_goals
    simp only [Option.bind_eq_some_iff] at h
    obtain ⟨month, -, y, -, start, -, h⟩ := h
    cases h
    exact isMonthly_ofEnds start _

/-- What each rule gives is a range of whole months. -/
theorem isMonthly_of_rule {a : Anchor} {rule : Rule} {apply : String → Option DateRange}
    (hm : (rule, apply) ∈ rules a) {s : String} {r : DateRange} (h : apply s = some r) :
    r.IsMonthly := by
  simp only [rules, List.mem_cons, Prod.mk.injEq, List.not_mem_nil, or_false] at hm
  rcases hm with ⟨-, rfl⟩ | ⟨-, rfl⟩ | ⟨-, rfl⟩ | ⟨-, rfl⟩ | ⟨-, rfl⟩ | ⟨-, rfl⟩ | ⟨-, rfl⟩ |
    ⟨-, rfl⟩ | ⟨-, rfl⟩
  · simp only [yearRange?, Option.bind_eq_bind, Option.bind_eq_some_iff] at h
    obtain ⟨m, -, first, -, last, -, h⟩ := h
    exact isMonthly_ofYears? h
  · simp only [quarter?, Option.bind_eq_bind, Option.bind_eq_some_iff] at h
    obtain ⟨m, -, y, -, word, -, q, -, h⟩ := h
    exact isMonthly_ofQuarter? h
  · simp only [quarterShort?, Option.bind_eq_bind, Option.bind_eq_some_iff] at h
    obtain ⟨m, -, y, -, word, -, q, -, h⟩ := h
    exact isMonthly_ofQuarter? h
  · simp only [month?, Option.bind_eq_bind] at h
    split at h
    · cases h
    · simp only [Option.bind_eq_some_iff] at h
      obtain ⟨m, -, y, -, word, -, month, -, h⟩ := h
      exact isMonthly_ofMonth? h
  · exact isMonthly_since? h
  · simp only [lastN?, Option.bind_eq_bind, Option.bind_eq_some_iff] at h
    obtain ⟨m, -, word, -, n, -, name, -, unit, -, h⟩ := h
    cases h
    exact isMonthly_trailing a.latest _
  · simp only [lastOne?, Option.bind_eq_bind, Option.bind_eq_some_iff] at h
    obtain ⟨m, -, name, -, unit, -, h⟩ := h
    cases h
    exact isMonthly_trailing a.latest _
  · simp only [yearToDate?, Option.bind_eq_bind] at h
    split at h
    · simp only [Option.bind_eq_some_iff] at h
      obtain ⟨start, -, h⟩ := h
      cases h
      exact isMonthly_ofEnds start _
    · cases h
  · unfold years? at h
    split at h
    · cases h
    · exact isMonthly_ofYears? h

/-- A resolution is what one of the rules gives, or the last months without a rule. -/
theorem resolve_cases (a : Anchor) (s : String) :
    (∃ apply, ((resolve a s).rule, apply) ∈ rules a ∧ apply s = some (resolve a s).range) ∨
      resolve a s = ⟨DateRange.trailing a.latest defaultMonths, .defaultTrailing⟩ := by
  unfold resolve
  split
  · rename_i res h
    obtain ⟨⟨rule, apply⟩, hm, h⟩ := List.exists_of_findSome?_eq_some h
    obtain ⟨range, hr, rfl⟩ := Option.map_eq_some_iff.mp h
    exact .inl ⟨apply, hm, hr⟩
  · exact .inr rfl

theorem isMonthly_resolve (a : Anchor) (s : String) : (resolve a s).range.IsMonthly := by
  rcases resolve_cases a s with ⟨apply, hm, hr⟩ | hr
  · exact isMonthly_of_rule hm hr
  · rw [hr]
    exact isMonthly_trailing a.latest defaultMonths

end Phrase

end BankQuery
