import Mathlib.Data.List.Sort
import BankQuery.Proofs.Calendar.Months
import BankQuery.Proofs.Chart.Ranking

/-!
# Series over months

A series lists the rows that belong to it, or all months of the range with what the rows have for
them. `Chart.timeSeries_dense` says that both give the same points: nothing is lost, and without the
months that have no value the second is the first.
-/

namespace BankQuery

section Keyed

variable {α β : Type} [BEq β] [LawfulBEq β] {f : α → β}

/-- Looking up each key in turn gives back the list, if the keys of the list are among them. -/
theorem filterMap_find? {ds : List β} {xs : List α} (h : (xs.map f).Sublist ds) (hds : ds.Nodup) :
    (ds.filterMap fun d => xs.find? fun x => f x == d) = xs := by
  induction ds generalizing xs with
  | nil =>
    rw [List.sublist_nil, List.map_eq_nil_iff] at h
    rw [h]
    rfl
  | cons d ds ih =>
    obtain ⟨hd, hds⟩ := List.nodup_cons.mp hds
    cases xs with
    | nil => simp
    | cons x xs =>
      rw [List.map_cons] at h
      rw [List.filterMap_cons]
      by_cases hx : f x = d
      · have hrest : (xs.map f).Sublist ds := by
          cases h with
          | cons _ h => exact absurd (h.subset (hx ▸ List.mem_cons_self)) hd
          | cons_cons _ h => exact h
        -- The keys that follow are other ones, and skip the first element.
        have hskip : ∀ d' ∈ ds,
            ((x :: xs).find? fun x => f x == d') = xs.find? fun x => f x == d' := by
          intro d' hd'
          have hne : f x ≠ d' := fun he => hd (hx ▸ he ▸ hd')
          rw [List.find?_cons_of_neg (by simpa using hne)]
        rw [List.find?_cons_of_pos (by simpa using hx)]
        dsimp only
        rw [List.filterMap_congr hskip, ih hrest hds]
      · have hall : ((x :: xs).map f).Sublist ds := by
          cases h with
          | cons _ h => exact h
          | cons_cons _ h => exact absurd rfl hx
        have hnone : ((x :: xs).find? fun x => f x == d) = none := by
          rw [List.find?_eq_none]
          intro x' hx' he
          exact hd (hall.subset (eq_of_beq he ▸ List.mem_map_of_mem hx'))
        rw [hnone, ih hall hds]

end Keyed

namespace Chart

/-- Whether a row belongs to a series: by its bank, and by its segment where banks are split. -/
def belongs (q : Question) (k : Key) (row : Row) : Bool :=
  Text.sameAscii row.bank k.bank && (!isSplit q || row.segment == k.segment)

def shown (u : MetricUnit) (row : Row) : Point := ⟨row.period.monthLabel, row.value.map u.display⟩

section Matching

variable {q : Question} {k : Key} {rows : List Row}

theorem matching_eq (honce : ((rows.filter (belongs q k)).map Row.period).Nodup) :
    matching q k rows =
      sortBy (fun a b => decide (a.period < b.period)) (rows.filter (belongs q k)) := by
  have hperm := sortBy_perm (fun a b => decide (a.period < b.period)) (rows.filter (belongs q k))
  exact dropRepeats_of_nodup_map ((hperm.map Row.period).nodup_iff.mpr honce)

/-- The rows of a series are the matching ones, in the order of time. -/
theorem matching_perm (honce : ((rows.filter (belongs q k)).map Row.period).Nodup) :
    (matching q k rows).Perm (rows.filter (belongs q k)) := by
  rw [matching_eq honce]
  exact sortBy_perm _ _

theorem pairwise_matching (honce : ((rows.filter (belongs q k)).map Row.period).Nodup) :
    (matching q k rows).Pairwise fun a b => a.period < b.period := by
  have hnodup := ((matching_perm honce).map Row.period).nodup_iff.mpr honce
  have hsorted : (matching q k rows).Pairwise fun a b => a.period ≤ b.period := by
    rw [matching_eq honce]
    refine pairwise_sortBy_key (f := fun row : Row => row.period.key) fun a _ b _ => ?_
    exact decide_eq_true_iff
  exact hsorted.imp₂ (fun _ _ => Date.lt_of_le_of_ne) (List.pairwise_map.mp hnodup)

end Matching

section Dates

variable {ds es : List Date}

theorem nodup_of_pairwise (hds : ds.Pairwise (· < ·)) : ds.Nodup := by
  refine hds.imp fun {a b} hlt he => ?_
  subst he
  exact Int.lt_irrefl a.key hlt

/-- Dates in strict order are part of any others that hold them. -/
theorem sublist_of_subset (hds : ds.Pairwise (· < ·)) (hes : es.Pairwise (· < ·)) (h : ds ⊆ es) :
    ds.Sublist es := by
  have hanti : Std.Antisymm (α := Date) (· < ·) :=
    ⟨fun a b hab hba => absurd (show a.key < b.key from hab) (Int.lt_asymm hba)⟩
  exact List.sublist_of_subperm_of_pairwise
    (List.subperm_of_subset (nodup_of_pairwise hds) h) hds hes

end Dates

section Points

variable (u : MetricUnit) (range : DateRange)

def shown? (row : Row) : Option Point :=
  row.value.map fun v => ⟨row.period.monthLabel, some (u.display v)⟩

theorem points_sparse (rows : List Row) : points ⟨false⟩ u range rows =
    (rows.filter fun row => row.value.isSome).map (shown u) := by
  change rows.filterMap (shown? u) = _
  induction rows with
  | nil => rfl
  | cons row rows ih =>
    cases hv : row.value with
    | none => simpa [hv, shown?] using ih
    | some v => simpa [hv, shown?, shown] using ih

/-- A month has a point with a value if the row of the month has one. -/
theorem guard_pointAt (rows : List Row) (month : Date) :
    Option.guard (fun p : Point => p.value.isSome) (pointAt u rows month) =
      (rows.find? fun row => row.period == month).bind (shown? u) := by
  unfold pointAt shown?
  cases hf : rows.find? fun row => row.period == month with
  | none => rfl
  | some row =>
    have hperiod : row.period = month := by simpa using List.find?_some hf
    rw [Option.bind_some, Option.bind_some, hperiod]
    cases row.value <;> rfl

variable {u range} {rows : List Row}

/-- Dropping the months that have no value leaves the points of the rows. -/
theorem filter_points_dense (hr : range.IsMonthly)
    (hsorted : rows.Pairwise fun a b => a.period < b.period)
    (hrows : ∀ row ∈ rows, row.period ∈ range.months) :
    (points ⟨true⟩ u range rows).filter (fun p => p.value.isSome) =
      points ⟨false⟩ u range rows := by
  have hmonths := DateRange.pairwise_months hr
  have hsub : (rows.map Row.period).Sublist range.months := by
    refine sublist_of_subset (List.pairwise_map.mpr hsorted) hmonths fun d hd => ?_
    obtain ⟨row, hrow, rfl⟩ := List.mem_map.mp hd
    exact hrows row hrow
  have hdense : points ⟨true⟩ u range rows = range.months.map (pointAt u rows) := rfl
  calc (points ⟨true⟩ u range rows).filter (fun p => p.value.isSome)
      = range.months.filterMap fun month =>
          (rows.find? fun row => row.period == month).bind (shown? u) := by
        rw [hdense, ← List.filterMap_eq_filter, List.filterMap_map]
        exact List.filterMap_congr fun month _ => guard_pointAt u rows month
    _ = rows.filterMap (shown? u) := by
        rw [← List.filterMap_filterMap, filterMap_find? hsub (nodup_of_pairwise hmonths)]

end Points

theorem seriesOf_timeSeries {q : Question} (hmode : q.mode = .single ∨ q.mode = .compare)
    (options : Options) (r : Registry) (m : Metric) (rows : List Row) :
    seriesOf options r q m rows = (keys q).map (seriesFor options r q m rows) := by
  unfold seriesOf
  rcases hmode with h | h <;> rw [h]

end Chart

def Series.withoutGaps (s : Series) : Series :=
  { s with points := s.points.filter fun p => p.value.isSome }

namespace Chart

/-- A question over months has a series for each bank, and for each segment of each bank where more
than one is asked for. With one row at most for each series and month, its points are the rows that
belong to the series and have a value, in the order of time; with a point for every month of the
range, they are the same points and those of the other months, which have no value. -/
theorem timeSeries_dense {r : Registry} {q : Question} {m : Metric} {rows : List Row} {a b : Date}
    (hm : r.metric? (q.metric.getD "") = some m) (hmode : q.mode = .single ∨ q.mode = .compare)
    (hrange : q.range = DateRange.ofEnds a b)
    (hrows : ∀ row ∈ rows, row.period.day = 1 ∧ q.range.start ≤ row.period ∧
      row.period ≤ q.range.stop)
    (honce : ∀ k ∈ keys q, ((rows.filter (belongs q k)).map Row.period).Nodup) :
    ∃ dense sparse, ofRows? ⟨true⟩ r q rows = some dense ∧ ofRows? ⟨false⟩ r q rows = some sparse ∧
      (q.filters.length ≤ 1 → dense.series.map Series.bank = q.banks) ∧
      (1 < q.filters.length → dense.series.map (fun s => (s.bank, s.segment)) =
        q.banks.flatMap fun bank => q.filters.map fun segment => (bank, some segment)) ∧
      (∀ s ∈ sparse.series, ∃ kept : List Row,
        kept.Perm (rows.filter fun row => row.value.isSome && belongs q ⟨s.bank, s.segment⟩ row) ∧
          kept.Pairwise (fun a b => a.period < b.period) ∧ s.points = kept.map (shown m.unit)) ∧
      (∃ months : List Date, months.length = q.range.monthCount ∧ months.Pairwise (· < ·) ∧
        (∀ d, d ∈ months ↔ d.day = 1 ∧ q.range.start ≤ d ∧ d ≤ q.range.stop) ∧
          ∀ s ∈ dense.series, s.points.map Point.period = months.map Date.monthLabel) ∧
      sparse.series = dense.series.map Series.withoutGaps := by
  have hr : q.range.IsMonthly := hrange ▸ DateRange.isMonthly_ofEnds a b
  have hchart (options : Options) : ofRows? options r q rows = some ⟨m.code, m.displayName,
      m.unit.label, (keys q).map (seriesFor options r q m rows)⟩ := by
    rw [ofRows?, hm, Option.map_some, seriesOf_timeSeries hmode]
  refine ⟨_, _, hchart ⟨true⟩, hchart ⟨false⟩, fun h => ?_, fun h => ?_, fun s hs => ?_,
    ⟨q.range.months, DateRange.length_months hr, DateRange.pairwise_months hr,
      fun d => DateRange.mem_months hr, fun s hs => ?_⟩, ?_⟩
  · have hsplit : isSplit q = false := decide_eq_false (Nat.not_lt.mpr h)
    rw [keys, hsplit, List.map_map, if_neg Bool.false_ne_true, List.map_map]
    exact List.map_id _
  · have hsplit : isSplit q = true := decide_eq_true h
    rw [keys, hsplit, List.map_map, if_pos rfl, List.map_flatMap]
    exact List.flatMap_congr fun bank _ => List.map_map
  · obtain ⟨k, hk, rfl⟩ := List.mem_map.mp hs
    refine ⟨(matching q k rows).filter fun row => row.value.isSome, ?_, ?_, ?_⟩
    · have hperm := (matching_perm (honce k hk)).filter fun row => row.value.isSome
      rwa [List.filter_filter] at hperm
    · exact (pairwise_matching (honce k hk)).filter _
    · exact points_sparse m.unit q.range (matching q k rows)
  · obtain ⟨k, hk, rfl⟩ := List.mem_map.mp hs
    exact List.map_map
  · rw [List.map_map]
    refine List.map_congr_left fun k hk => ?_
    have hin : ∀ row ∈ matching q k rows, row.period ∈ q.range.months := by
      intro row hrow
      have hrow := (List.mem_filter.mp ((matching_perm (honce k hk)).mem_iff.mp hrow)).1
      exact (DateRange.mem_months hr).mpr (hrows row hrow)
    have hpoints := filter_points_dense (u := m.unit) hr (pairwise_matching (honce k hk)) hin
    rw [Function.comp_apply, Series.withoutGaps, seriesFor, seriesFor, hpoints]

def february : Date := allBanksQuestion.range.start

def segmentsQuestion : Question where
  metric := some "IMOR"
  banks := ["INVEX", "BBVA"]
  range := DateRange.ofEnds (february.shift 3) february
  filters := ["consumo", "vivienda"]
  mode := .compare

/-- Rows that are not in order, one without a value and one with its bank in small letters. -/
def segmentRows : List Row :=
  [{ bank := "invex", period := february.shift 2, segment := some "consumo",
     value := some 0.03 },
   { bank := "BBVA", period := february.shift 3, segment := some "vivienda",
     value := none },
   { bank := "INVEX", period := february, segment := some "consumo",
     value := some 0.05 },
   { bank := "BBVA", period := february, segment := some "consumo",
     value := some 0.02 }]

/-- No bank has a row for March, and all series have a point there. -/
theorem timeSeries_dense_segments :
    (∀ k ∈ keys segmentsQuestion,
      ((segmentRows.filter (belongs segmentsQuestion k)).map Row.period).Nodup) ∧
    ∃ dense sparse, ofRows? ⟨true⟩ Registry.standard segmentsQuestion segmentRows = some dense ∧
      ofRows? ⟨false⟩ Registry.standard segmentsQuestion segmentRows = some sparse ∧
      dense.series.map (fun s => (s.bank, s.segment)) =
        [("INVEX", some "consumo"), ("INVEX", some "vivienda"), ("BBVA", some "consumo"),
          ("BBVA", some "vivienda")] ∧
      (∀ s ∈ dense.series, "2018-03" ∈ s.points.map Point.period) ∧
      sparse.series = dense.series.map Series.withoutGaps := by
  obtain ⟨m, hm⟩ : ∃ m, Registry.standard.metric? "IMOR" = some m :=
    Option.isSome_iff_exists.mp (by decide)
  have hrange : segmentsQuestion.range = DateRange.ofEnds (february.shift 3) february := rfl
  have hrows : ∀ row ∈ segmentRows, row.period.day = 1 ∧ segmentsQuestion.range.start ≤ row.period ∧
      row.period ≤ segmentsQuestion.range.stop := by decide
  have honce : ∀ k ∈ keys segmentsQuestion,
      ((segmentRows.filter (belongs segmentsQuestion k)).map Row.period).Nodup := by decide +kernel
  obtain ⟨dense, sparse, hdense, hsparse, -, hkeys, -, ⟨months, -, -, hmonths, hperiods⟩, hgaps⟩ :=
    timeSeries_dense (q := segmentsQuestion) hm (.inr rfl) hrange hrows honce
  refine ⟨honce, dense, sparse, hdense, hsparse, hkeys (by decide), fun s hs => ?_, hgaps⟩
  have hmarch : february.shift 1 ∈ months := (hmonths _).mpr (by decide)
  have hlabel : (february.shift 1).monthLabel = "2018-03" := by decide
  rw [hperiods s hs, ← hlabel]
  exact List.mem_map_of_mem hmarch

end Chart

end BankQuery
