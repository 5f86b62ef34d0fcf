import BankQuery.Proofs.Chart.TimeSeries

/-!
# The places of a ranking

A ranking sorts its rows and keeps the first of them. `Chart.Precedes` says in which order: by
value, rows without one last, and by bank among equals. `Chart.ranking_places` says that the chart
has the first rows of that order with their numbers, and that it is the same for the rows in any
order.
-/

namespace BankQuery.Chart

inductive Tied (a b : Row) : Prop
  | missing (ha : a.value = none) (hb : b.value = none)
  | value {x y : Float} (ha : a.value = some x) (hb : b.value = some y) (hxy : ¬ x < y)
    (hyx : ¬ y < x)

inductive Precedes : RankOrder → Row → Row → Prop
  | lower {a b : Row} {x y : Float} (ha : a.value = some x) (hb : b.value = some y) (h : x < y) :
    Precedes .ascending a b
  | higher {a b : Row} {x y : Float} (ha : a.value = some x) (hb : b.value = some y) (h : y < x) :
    Precedes .descending a b
  | missing {order : RankOrder} {a b : Row} {x : Float} (ha : a.value = some x)
    (hb : b.value = none) : Precedes order a b
  | bank {order : RankOrder} {a b : Row} (htied : Tied a b) (hbank : a.bank < b.bank) :
    Precedes order a b

def places (q : Question) (rows : List Row) : Nat :=
  match q.topN with
  | some n => min n.toNat rows.length
  | none => rows.length

section Order

variable {order : RankOrder} {a b : Row}

theorem Precedes.of_rowBefore (h : rowBefore order a b = true) : Precedes order a b := by
  unfold rowBefore at h
  cases ha : a.value with
  | none =>
    cases hb : b.value with
    | none =>
      rw [ha, hb] at h
      exact .bank (.missing ha hb) (of_decide_eq_true h)
    | some y =>
      rw [ha, hb] at h
      cases h
  | some x =>
    cases hb : b.value with
    | none => exact .missing ha hb
    | some y =>
      rw [ha, hb] at h
      simp only [Bool.or_eq_true, Bool.and_eq_true, Bool.not_eq_true', decide_eq_true_eq] at h
      by_cases hlt : valueBefore order x y = true
      · cases order with
        | ascending => exact .lower ha hb (of_decide_eq_true hlt)
        | descending => exact .higher ha hb (of_decide_eq_true hlt)
      · obtain ⟨hnot, hbank⟩ := h.resolve_left hlt
        have hlt := Bool.eq_false_of_not_eq_true hlt
        refine .bank ?_ hbank
        cases order with
        | ascending => exact .value ha hb (of_decide_eq_false hlt) (of_decide_eq_false hnot)
        | descending => exact .value ha hb (of_decide_eq_false hnot) (of_decide_eq_false hlt)

theorem Precedes.rowBefore (h : Precedes order a b) : rowBefore order a b = true := by
  unfold Chart.rowBefore
  cases h with
  | lower ha hb h | higher ha hb h =>
    rw [ha, hb]
    simp [valueBefore, h]
  | missing ha hb => rw [ha, hb]
  | bank htied hbank =>
    cases htied with
    | missing ha hb =>
      rw [ha, hb]
      exact decide_eq_true hbank
    | value ha hb hxy hyx =>
      rw [ha, hb]
      cases order <;> simp [valueBefore, hxy, hyx, hbank]

variable {rows : List Row} (hv : ∀ row ∈ rows, row.IsNumeric)

include hv

theorem precedes_iff (ha : a ∈ rows) (hb : b ∈ rows) :
    Precedes order a b ↔ place order a < place order b := by
  rw [← rowBefore_iff (hv a ha) (hv b hb)]
  exact ⟨Precedes.rowBefore, Precedes.of_rowBefore⟩

variable (hbanks : (rows.map Row.bank).Nodup)

include hbanks

/-- Rows of different banks stand in strict order. -/
theorem pairwise_precedes : (sortBy (rowBefore order) rows).Pairwise (Precedes order) := by
  have hperm := sortBy_perm (rowBefore order) rows
  have hne : (sortBy (rowBefore order) rows).Pairwise fun a b => a.bank ≠ b.bank :=
    List.pairwise_map.mp ((hperm.map Row.bank).nodup_iff.mpr hbanks)
  refine ((pairwise_place hv).and hne).imp_of_mem fun ha hb ⟨hle, hne⟩ => ?_
  refine (precedes_iff hv (hperm.mem_iff.mp ha) (hperm.mem_iff.mp hb)).mpr ?_
  exact lt_of_le_of_ne hle fun he => hne (congrArg (fun p => (ofLex p).2) he)

theorem sortBy_of_perm {rows' : List Row} (hperm : rows'.Perm rows) :
    sortBy (rowBefore order) rows' = sortBy (rowBefore order) rows := by
  have hmem (row : Row) : row ∈ rows' ↔ row ∈ rows := hperm.mem_iff
  have hsorted : (sortBy (rowBefore order) rows).Pairwise (Precedes order) :=
    pairwise_precedes hv hbanks
  have hsorted' : (sortBy (rowBefore order) rows').Pairwise (Precedes order) :=
    pairwise_precedes (fun row h => hv row ((hmem row).mp h))
      ((hperm.map Row.bank).nodup_iff.mpr hbanks)
  refine List.Perm.eq_of_pairwise (fun a b ha hb hab hba => ?_) hsorted' hsorted
    ((sortBy_perm _ rows').trans (hperm.trans (sortBy_perm _ rows).symm))
  have ha : a ∈ rows := (hmem a).mp ((sortBy_perm _ rows').mem_iff.mp ha)
  have hb : b ∈ rows := (sortBy_perm _ rows).mem_iff.mp hb
  exact absurd ((precedes_iff hv hb ha).mp hba) ((precedes_iff hv ha hb).mp hab).not_gt

end Order

theorem ranked_eq (q : Question) {rows : List Row} (hbanks : (rows.map Row.bank).Nodup) :
    ranked q rows = (sortBy (rowBefore q.order) rows).take (places q rows) := by
  have hperm := sortBy_perm (rowBefore q.order) rows
  have hkept : dropRepeats (fun a b => a.bank == b.bank) (sortBy (rowBefore q.order) rows) = _ :=
    dropRepeats_of_nodup_map ((hperm.map Row.bank).nodup_iff.mpr hbanks)
  rw [ranked, hkept, places]
  cases q.topN with
  | some n =>
    dsimp only
    rw [← hperm.length_eq]
    exact List.take_eq_take_min
  | none => exact (List.take_of_length_le hperm.length_eq.le).symm

theorem places_le (q : Question) (rows : List Row) : places q rows ≤ rows.length := by
  unfold places
  cases q.topN with
  | some n => exact Nat.min_le_right n.toNat rows.length
  | none => exact Nat.le_refl rows.length

/-- What a series of a ranking shows: its bank, its place and the point of its row. -/
def entry (u : MetricUnit) (i : Nat) (row : Row) : String × Option UInt32 × List Point :=
  (row.bank, some (UInt32.ofNat (i + 1)), [shown u row])

theorem map_rankedSeries (r : Registry) (m : Metric) (rows : List Row) :
    (rows.mapIdx (rankedSeries r m)).map (fun s => (s.bank, s.rank, s.points)) =
      rows.mapIdx (entry m.unit) := by
  refine List.ext_getElem (by simp) fun i _ _ => ?_
  simp [rankedSeries, entry, shown]

/-- The places that fit a machine word are counted from one. -/
theorem map_rank_entry (u : MetricUnit) {rows : List Row} (h : rows.length < 2 ^ 32) :
    (rows.mapIdx (entry u)).map (fun e => e.2.1.map UInt32.toNat) =
      (List.range' 1 rows.length).map some := by
  refine List.ext_getElem (by simp) fun i hi _ => ?_
  have hi : i < rows.length := by simpa using hi
  have hplace : (UInt32.ofNat (i + 1)).toNat = i + 1 :=
    UInt32.toNat_ofNat_of_lt' (Nat.lt_of_le_of_lt hi h)
  rw [List.getElem_map, List.getElem_mapIdx, entry, Option.map_some, hplace, List.getElem_map,
    List.getElem_range', Nat.one_mul, Nat.add_comm]

/-- The chart of a ranking of different banks has the first rows in the order of their values, as
many as asked for or all of them, numbered from one. No row that is left out comes before one that
is kept, and the rows may arrive in any order. -/
theorem ranking_places {r : Registry} {q : Question} {m : Metric} {rows : List Row}
    (hm : r.metric? (q.metric.getD "") = some m) (hq : q.mode = .ranking)
    (hv : ∀ row ∈ rows, row.IsNumeric) (hbanks : (rows.map Row.bank).Nodup) (options : Options) :
    ∃ (c : Chart) (kept omitted : List Row), ofRows? options r q rows = some c ∧
      (kept ++ omitted).Perm rows ∧ (kept ++ omitted).Pairwise (Precedes q.order) ∧
      kept.length = places q rows ∧ (∀ a ∈ omitted, ∀ b ∈ kept, ¬ Precedes q.order a b) ∧
      c.series.map (fun s => (s.bank, s.rank, s.points)) = kept.mapIdx (entry m.unit) ∧
      (kept.length < 2 ^ 32 → c.series.map (fun s => s.rank.map UInt32.toNat) =
        (List.range' 1 kept.length).map some) ∧
      ∀ rows' : List Row, rows'.Perm rows → ofRows? options r q rows' = some c := by
  have hperm := sortBy_perm (rowBefore q.order) rows
  have hchart (rows' : List Row) (h : rows'.Perm rows) : ofRows? options r q rows' = some
      ⟨m.code, m.displayName, m.unit.label, (ranked q rows).mapIdx (rankedSeries r m)⟩ := by
    have hplaces : places q rows' = places q rows := by rw [places, places, h.length_eq]
    have hranked : ranked q rows' = ranked q rows := by
      rw [ranked_eq q ((h.map Row.bank).nodup_iff.mpr hbanks), ranked_eq q hbanks, hplaces,
        sortBy_of_perm hv hbanks h]
    rw [ofRows?, hm, Option.map_some, seriesOf, hq, hranked]
  have hall : ranked q rows ++ (sortBy (rowBefore q.order) rows).drop (places q rows) =
      sortBy (rowBefore q.order) rows := by
    rw [ranked_eq q hbanks, List.take_append_drop]
  have hstrict : (sortBy (rowBefore q.order) rows).Pairwise (Precedes q.order) :=
    pairwise_precedes hv hbanks
  rw [← hall] at hperm hstrict
  have hseries := map_rankedSeries r m (ranked q rows)
  refine ⟨_, ranked q rows, _, hchart rows (.refl rows), hperm, hstrict, ?_, ?_, hseries, ?_,
    hchart⟩
  · rw [ranked_eq q hbanks, List.length_take, (sortBy_perm _ rows).length_eq]
    exact Nat.min_eq_left (places_le q rows)
  · intro a ha b hb hab
    have hba : Precedes q.order b a := (List.pairwise_append.mp hstrict).2.2 b hb a ha
    have ha : a ∈ rows := hperm.mem_iff.mp (List.mem_append_right _ ha)
    have hb : b ∈ rows := hperm.mem_iff.mp (List.mem_append_left _ hb)
    exact lt_asymm ((precedes_iff hv ha hb).mp hab) ((precedes_iff hv hb ha).mp hba)
  · intro hlength
    rw [← map_rank_entry m.unit hlength, ← hseries, List.map_map]
    rfl

def lowestQuestion : Question := { allBanksQuestion with topN := some 3, order := .ascending }

def tiedRows : List Row :=
  [{ bank := "INVEX", period := february, value := none },
   { bank := "SANTANDER", period := february, value := some 0.02 },
   { bank := "BANORTE", period := february, value := some 0.05 },
   { bank := "BBVA", period := february, value := some 0.02 }]

theorem ranking_places_tied : (tiedRows.map Row.bank).Nodup ∧ (∀ row ∈ tiedRows, row.IsNumeric) ∧
    ∃ c, ofRows? {} Registry.standard lowestQuestion tiedRows = some c ∧
      ofRows? {} Registry.standard lowestQuestion tiedRows.reverse = some c ∧
      c.series.map (fun s => s.rank.map UInt32.toNat) = [some 1, some 2, some 3] := by
  obtain ⟨m, hm⟩ : ∃ m, Registry.standard.metric? "IMOR" = some m :=
    Option.isSome_iff_exists.mp (by decide)
  have hv : ∀ row ∈ tiedRows, row.IsNumeric := by decide +kernel
  have hbanks : (tiedRows.map Row.bank).Nodup := by decide
  obtain ⟨c, kept, omitted, hc, -, -, hlength, -, -, hranks, hperm⟩ :=
    ranking_places (q := lowestQuestion) hm rfl hv hbanks {}
  have hthree : kept.length = 3 := hlength
  refine ⟨hbanks, hv, c, hc, hperm tiedRows.reverse (List.reverse_perm tiedRows), ?_⟩
  rw [hranks (by rw [hthree]; decide), hthree]
  rfl

end BankQuery.Chart
