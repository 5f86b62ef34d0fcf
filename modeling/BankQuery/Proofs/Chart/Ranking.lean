import Mathlib.Data.List.Chain
import Mathlib.Data.List.Sort
import Mathlib.Data.String.Basic
import BankQuery.Chart.Basic
import BankQuery.Proofs.Number.Order
import BankQuery.Proofs.Sorting
import BankQuery.Registry.Standard

/-!
# The banks of a ranking

A ranking sorts its rows by value and then drops rows of the bank that stands next to them.
`Chart.ranking_banks` says what that leaves: neighbours are of different banks, every bank is there,
and no bank is there twice if and only if no row of another bank is ranked between two of its rows.

Where every value is a number, rows are ranked as their places are ordered: by the rank of the value
and then by the bank.
-/

namespace BankQuery

section Neighbours

variable {α β : Type}

/-- In a list without equal neighbours, equal elements have another one between them. -/
theorem nodup_of_isChain_ne {xs : List β} (hc : xs.IsChain (· ≠ ·))
    (h : ∀ x y, [x, y, x].Sublist xs → y = x) : xs.Nodup := by
  induction xs with
  | nil => exact .nil
  | cons x rest ih =>
    refine List.nodup_cons.mpr ⟨fun hx => ?_, ih hc.tail fun a b hab => h a b (hab.cons x)⟩
    cases rest with
    | nil => cases hx
    | cons y ys =>
      have hne : x ≠ y := (List.isChain_cons_cons.mp hc).1
      have hx : x ∈ ys := (List.mem_cons.mp hx).resolve_left hne
      exact hne (h x y ((List.singleton_sublist.mpr hx).cons_cons y |>.cons_cons x)).symm

variable [BEq β]

theorem map_dropRepeats (f : α → β) (xs : List α) :
    (dropRepeats (fun a b => f a == f b) xs).map f = dropRepeats (· == ·) (xs.map f) := by
  induction xs with
  | nil => rfl
  | cons x rest ih =>
    rw [List.map_cons, dropRepeats, dropRepeats, ← ih]
    cases dropRepeats (fun a b => f a == f b) rest with
    | nil => rfl
    | cons y ys =>
      rw [List.map_cons]
      dsimp only
      split <;> rfl

variable [LawfulBEq β]

/-- Elements of different keys have no repeats among them. -/
theorem dropRepeats_of_nodup_map {f : α → β} {xs : List α} (h : (xs.map f).Nodup) :
    dropRepeats (fun a b => f a == f b) xs = xs := by
  have hmap := map_dropRepeats f xs
  rw [dropRepeats_of_nodup h] at hmap
  have hlength := congrArg List.length hmap
  rw [List.length_map, List.length_map] at hlength
  exact (dropRepeats_sublist _ xs).eq_of_length hlength

theorem isChain_dropRepeats (xs : List β) : (dropRepeats (· == ·) xs).IsChain (· ≠ ·) := by
  induction xs with
  | nil => exact .nil
  | cons x rest ih =>
    rw [dropRepeats]
    cases hd : dropRepeats (· == ·) rest with
    | nil => exact .singleton x
    | cons y ys =>
      rw [hd] at ih
      by_cases hxy : x = y
      · simpa [hxy] using ih
      · simpa [hxy] using ih

/-- A part of a list in which no neighbours are equal is still there when repeats are dropped. -/
theorem sublist_dropRepeats {xs zs : List β} (hz : zs.IsChain (· ≠ ·)) (h : zs.Sublist xs) :
    zs.Sublist (dropRepeats (· == ·) xs) := by
  induction xs generalizing zs with
  | nil => exact h
  | cons x rest ih =>
    rw [dropRepeats]
    cases hd : dropRepeats (· == ·) rest with
    | nil =>
      rw [hd] at ih
      cases h with
      | cons _ h => exact (ih hz h).trans (List.nil_sublist [x])
      | cons_cons _ h => exact (ih hz.tail h).cons_cons x
    | cons y ys =>
      rw [hd] at ih
      by_cases hxy : x = y
      · subst hxy
        dsimp only
        rw [beq_self_eq_true, if_pos rfl]
        cases h with
        | cons _ h => exact ih hz h
        | cons_cons _ h =>
          rename_i zs
          -- The part goes on with another element than `x`, so that it is found behind it.
          cases ih hz.tail h with
          | cons _ h => exact h.cons_cons x
          | cons_cons _ h => exact absurd rfl (List.isChain_cons_cons.mp hz).1
      · dsimp only
        rw [if_neg (by simpa using hxy)]
        cases h with
        | cons _ h => exact (ih hz h).cons x
        | cons_cons _ h => exact (ih hz.tail h).cons_cons x

/-- Dropping repeats leaves every element once exactly if no other one stands between equal ones. -/
theorem nodup_dropRepeats_iff {xs : List β} : (dropRepeats (· == ·) xs).Nodup ↔
    ∀ x y, [x, y, x].Sublist xs → y = x := by
  refine ⟨fun hn x y hxy => ?_, fun h => ?_⟩
  · by_contra hne
    have hchain : [x, y, x].IsChain (· ≠ ·) := by simp [hne, Ne.symm hne]
    have hkept := hn.sublist (sublist_dropRepeats hchain hxy)
    simp at hkept
  · apply nodup_of_isChain_ne (isChain_dropRepeats xs)
    exact fun x y hxy => h x y (hxy.trans (dropRepeats_sublist (· == ·) xs))

end Neighbours

def Row.IsNumeric (row : Row) : Prop := ∀ x ∈ row.value, x.isNaN = false

instance (row : Row) : Decidable row.IsNumeric :=
  inferInstanceAs (Decidable (∀ x ∈ row.value, x.isNaN = false))

namespace Chart

open Number

def turned (p : ℤ ×ₗ ℤ ×ₗ ℤ) : ℤ ×ₗ ℤ ×ₗ ℤ :=
  toLex (-(ofLex p).1, toLex (-(ofLex (ofLex p).2).1, -(ofLex (ofLex p).2).2))

theorem turned_lt_iff {p p' : ℤ ×ₗ ℤ ×ₗ ℤ} : turned p < turned p' ↔ p' < p := by
  simp only [turned, Prod.Lex.lt_iff, ofLex_toLex]
  omega

/-- Where a value stands in a ranking; a missing one stands behind all others. -/
def valuePlace (order : RankOrder) : Option Float → Bool ×ₗ ℤ ×ₗ ℤ ×ₗ ℤ
  | none => toLex (true, toLex (0, toLex (0, 0)))
  | some x => toLex (false, match order with
    | .ascending => rank x
    | .descending => turned (rank x))

def place (order : RankOrder) (row : Row) : (Bool ×ₗ ℤ ×ₗ ℤ ×ₗ ℤ) ×ₗ String :=
  toLex (valuePlace order row.value, row.bank)

section Places

variable {order : RankOrder}

theorem valueBefore_iff {x y : Float} (hx : x.isNaN = false) (hy : y.isNaN = false) :
    valueBefore order x y = true ↔ valuePlace order (some x) < valuePlace order (some y) := by
  unfold valuePlace
  rw [Prod.Lex.toLex_lt_toLex]
  cases order with
  | ascending =>
    rw [valueBefore, decide_eq_true_iff, lt_iff hx hy]
    simp
  | descending =>
    rw [valueBefore, decide_eq_true_iff, lt_iff hy hx, ← turned_lt_iff]
    simp

theorem valuePlace_lt_none (x : Float) : valuePlace order (some x) < valuePlace order none := by
  unfold valuePlace
  exact Prod.Lex.toLex_lt_toLex.mpr (.inl (show false < true by decide))

/-- Rows are ranked as their places are ordered. -/
theorem rowBefore_iff {a b : Row} (ha : a.IsNumeric) (hb : b.IsNumeric) :
    rowBefore order a b = true ↔ place order a < place order b := by
  unfold rowBefore place
  rw [Prod.Lex.toLex_lt_toLex]
  cases hx : a.value with
  | none =>
    cases hy : b.value with
    | none => simp
    | some y =>
      have hy : valuePlace order (some y) < valuePlace order none := valuePlace_lt_none y
      simp [hy.not_gt, hy.ne']
  | some x =>
    cases hy : b.value with
    | none =>
      have hx : valuePlace order (some x) < valuePlace order none := valuePlace_lt_none x
      simp [hx]
    | some y =>
      have hxy : valueBefore order x y = true ↔ _ := valueBefore_iff (ha x hx) (hb y hy)
      have hyx : valueBefore order y x = true ↔ _ := valueBefore_iff (hb y hy) (ha x hx)
      simp only [Bool.or_eq_true, Bool.and_eq_true, Bool.not_eq_true', ← Bool.not_eq_true, hxy, hyx,
        decide_eq_true_iff]
      constructor
      · rintro (hlt | ⟨hle, hbank⟩)
        · exact .inl hlt
        · exact (lt_or_eq_of_le (not_lt.mp hle)).imp_right fun he => ⟨he, hbank⟩
      · exact Or.imp_right fun ⟨he, hbank⟩ => ⟨he.not_gt, hbank⟩

variable {rows : List Row}

/-- The rows of a ranking, before any is dropped, stand in the order of their places. -/
theorem pairwise_place (hv : ∀ row ∈ rows, row.IsNumeric) :
    (sortBy (rowBefore order) rows).Pairwise fun a b => place order a ≤ place order b :=
  pairwise_sortBy_key fun a ha b hb => rowBefore_iff (hv a ha) (hv b hb)

/-- The banks of a ranking before it is cut to the number of places. -/
def rankedBanks (order : RankOrder) (rows : List Row) : List String :=
  dropRepeats (· == ·) ((sortBy (rowBefore order) rows).map Row.bank)

/-- No row of another bank is ranked between two rows of one bank. -/
def Unmixed (order : RankOrder) (rows : List Row) : Prop :=
  ∀ a ∈ rows, ∀ b ∈ rows, ∀ c ∈ rows, a.bank = c.bank →
    rowBefore order a b = true → rowBefore order b c = true → b.bank = a.bank

instance (order : RankOrder) (rows : List Row) : Decidable (Unmixed order rows) :=
  inferInstanceAs (Decidable (∀ a ∈ rows, ∀ b ∈ rows, ∀ c ∈ rows, a.bank = c.bank →
    rowBefore order a b = true → rowBefore order b c = true → b.bank = a.bank))

/-- Rows that are ranked one after the other stand so in the ranking. -/
theorem sublist_of_rowBefore (hv : ∀ row ∈ rows, row.IsNumeric) {a b c : Row} (ha : a ∈ rows)
    (hb : b ∈ rows) (hc : c ∈ rows) (hab : rowBefore order a b = true)
    (hbc : rowBefore order b c = true) :
    [a.bank, b.bank, c.bank].Sublist ((sortBy (rowBefore order) rows).map Row.bank) := by
  have hab := (rowBefore_iff (hv a ha) (hv b hb)).mp hab
  have hbc := (rowBefore_iff (hv b hb) (hv c hc)).mp hbc
  have hmem {r : Row} (hr : r ∈ rows) : place order r ∈
      (sortBy (rowBefore order) rows).map (place order) :=
    List.mem_map_of_mem ((sortBy_perm _ rows).mem_iff.mpr hr)
  have hstrict : [place order a, place order b, place order c].Pairwise (· < ·) := by
    simp [hab, hbc, hab.trans hbc]
  have hplaces : [place order a, place order b, place order c].Sublist
      ((sortBy (rowBefore order) rows).map (place order)) := by
    apply List.sublist_of_subperm_of_sortedLE
    · apply List.subperm_of_subset (hstrict.imp ne_of_lt)
      simp [hmem ha, hmem hb, hmem hc]
    · exact (hstrict.imp le_of_lt).sortedLE
    · exact (List.pairwise_map.mpr (pairwise_place hv)).sortedLE
  have hbanks := hplaces.map fun p => (ofLex p).2
  rwa [List.map_map] at hbanks

/-- In the ranking every bank stands once exactly if the rows are unmixed. -/
theorem nodup_banks_iff (hv : ∀ row ∈ rows, row.IsNumeric) :
    (rankedBanks order rows).Nodup ↔ Unmixed order rows := by
  rw [rankedBanks, nodup_dropRepeats_iff]
  constructor
  · intro h a ha b hb c hc hbank hab hbc
    have hsub := sublist_of_rowBefore hv ha hb hc hab hbc
    rw [← hbank] at hsub
    exact h a.bank b.bank hsub
  · intro h x y hxy
    obtain ⟨found, hfound, he⟩ := List.sublist_map_iff.mp hxy
    obtain ⟨a, b, c, rfl⟩ : ∃ a b c, found = [a, b, c] :=
      List.length_eq_three.mp (by simpa using (congrArg List.length he).symm)
    simp only [List.map_cons, List.map_nil, List.cons.injEq, and_true] at he
    obtain ⟨rfl, rfl, hbank⟩ := he
    have hmem {r : Row} (hr : r ∈ [a, b, c]) : r ∈ rows :=
      (sortBy_perm _ rows).mem_iff.mp (hfound.subset hr)
    have hplaces := (pairwise_place hv).sublist hfound
    have hab : place order a ≤ place order b :=
      (List.pairwise_cons.mp hplaces).1 b (by simp)
    have hbc : place order b ≤ place order c :=
      (List.pairwise_cons.mp (List.pairwise_cons.mp hplaces).2).1 c (by simp)
    have ha : a ∈ rows := hmem (by simp)
    have hb : b ∈ rows := hmem (by simp)
    have hc : c ∈ rows := hmem (by simp)
    -- Rows at one place are of one bank.
    rcases hab.eq_or_lt with he | hab
    · exact (congrArg (fun p => (ofLex p).2) he).symm
    · rcases hbc.eq_or_lt with he | hbc
      · exact (congrArg (fun p => (ofLex p).2) he).trans hbank.symm
      · exact h a ha b hb c hc hbank ((rowBefore_iff (hv a ha) (hv b hb)).mpr hab)
          ((rowBefore_iff (hv b hb) (hv c hc)).mpr hbc)

/-- Rows of different banks, as a statement that groups by bank gives them, are unmixed. -/
theorem unmixed_of_nodup (hv : ∀ row ∈ rows, row.IsNumeric) (h : (rows.map Row.bank).Nodup) :
    Unmixed order rows := by
  intro a ha b hb c hc hbank hab hbc
  have hac : a = c := List.inj_on_of_nodup_map h ha hc hbank
  subst hac
  have hab := (rowBefore_iff (hv a ha) (hv b hb)).mp hab
  have hba := (rowBefore_iff (hv b hb) (hv a ha)).mp hbc
  exact absurd hba hab.not_gt

end Places

theorem map_bank_ranked (q : Question) (rows : List Row) :
    (ranked q rows).map Row.bank =
      match q.topN with
      | some n => (rankedBanks q.order rows).take n.toNat
      | none => rankedBanks q.order rows := by
  unfold ranked
  cases q.topN with
  | some n => exact List.map_take.trans (congrArg (List.take n.toNat) (map_dropRepeats Row.bank _))
  | none => exact map_dropRepeats Row.bank _

theorem map_bank_seriesOf {q : Question} (hq : q.mode = .ranking) (options : Options)
    (r : Registry) (m : Metric) (rows : List Row) :
    (seriesOf options r q m rows).map Series.bank = (ranked q rows).map Row.bank := by
  unfold seriesOf
  rw [hq]
  refine List.ext_getElem (by simp) fun i _ _ => ?_
  simp [rankedSeries]

/-- The chart of a ranking has no bank next to itself and none that has no row. Unmixed rows give
every bank one place; without a number of places every bank has one, and mixed rows give some bank
two. -/
theorem ranking_banks {r : Registry} {q : Question} {m : Metric} {rows : List Row}
    (hm : r.metric? (q.metric.getD "") = some m) (hq : q.mode = .ranking)
    (hv : ∀ row ∈ rows, row.IsNumeric) (options : Options) :
    ∃ c, ofRows? options r q rows = some c ∧
      (c.series.map Series.bank).IsChain (· ≠ ·) ∧
      (∀ b ∈ c.series.map Series.bank, b ∈ rows.map Row.bank) ∧
      (Unmixed q.order rows → (c.series.map Series.bank).Nodup) ∧
      (q.topN = none → (∀ b ∈ rows.map Row.bank, b ∈ c.series.map Series.bank) ∧
        ((c.series.map Series.bank).Nodup → Unmixed q.order rows)) := by
  have hmem (b : String) : b ∈ rankedBanks q.order rows ↔ b ∈ rows.map Row.bank :=
    mem_dropRepeats.trans ((sortBy_perm (rowBefore q.order) rows).map Row.bank).mem_iff
  have hchain : (rankedBanks q.order rows).IsChain (· ≠ ·) := isChain_dropRepeats _
  have hnodup : (rankedBanks q.order rows).Nodup ↔ Unmixed q.order rows := nodup_banks_iff hv
  obtain ⟨n, hn⟩ : ∃ n, (seriesOf options r q m rows).map Series.bank =
      (rankedBanks q.order rows).take n := by
    rw [map_bank_seriesOf hq, map_bank_ranked]
    cases q.topN with
    | some n => exact ⟨n.toNat, rfl⟩
    | none => exact ⟨(rankedBanks q.order rows).length, List.take_length.symm⟩
  have hall (h : q.topN = none) : (seriesOf options r q m rows).map Series.bank =
      rankedBanks q.order rows := by
    rw [map_bank_seriesOf hq, map_bank_ranked, h]
  have hchart : ofRows? options r q rows = some ⟨m.code, m.displayName, m.unit.label,
      seriesOf options r q m rows⟩ := by
    rw [ofRows?, hm]
    rfl
  refine ⟨_, hchart, ?_, fun b hb => ?_, fun h => ?_, fun h => ⟨fun b hb => ?_, ?_⟩⟩
  · rw [hn]
    exact hchain.take n
  · rw [hn] at hb
    exact (hmem b).mp (List.mem_of_mem_take hb)
  · rw [hn]
    exact (hnodup.mpr h).sublist (List.take_sublist n (rankedBanks q.order rows))
  · rw [hall h]
    exact (hmem b).mpr hb
  · rw [hall h]
    exact hnodup.mp

def allBanksQuestion : Question where
  metric := some "IMOR"
  range := ⟨⟨2018, 2, 1, by decide, by decide, by decide⟩,
    ⟨2018, 5, 1, by decide, by decide, by decide⟩⟩
  mode := .ranking

def monthRows (first second third : Float) : List Row :=
  let february : Date := ⟨2018, 2, 1, by decide, by decide, by decide⟩
  [{ bank := "INVEX", period := february, value := some first },
   { bank := "BBVA", period := february.shift 1, value := some second },
   { bank := "INVEX", period := february.shift 2, value := some third }]

theorem ranking_banks_twice : Unmixed .descending (monthRows 0.05 0.02 0.03) ∧
    ∃ c, ofRows? {} Registry.standard allBanksQuestion (monthRows 0.05 0.02 0.03) = some c ∧
      (c.series.map Series.bank).Nodup ∧ ∀ b ∈ ["INVEX", "BBVA"], b ∈ c.series.map Series.bank := by
  have hm : ∃ m, Registry.standard.metric? "IMOR" = some m :=
    Option.isSome_iff_exists.mp (by decide)
  obtain ⟨m, hm⟩ := hm
  have hv : ∀ row ∈ monthRows 0.05 0.02 0.03, row.IsNumeric := by decide +kernel
  have hu : Unmixed .descending (monthRows 0.05 0.02 0.03) := by decide +kernel
  obtain ⟨c, hc, -, -, hnodup, hall⟩ := ranking_banks (q := allBanksQuestion) hm rfl hv {}
  obtain ⟨hall, -⟩ := hall rfl
  exact ⟨hu, c, hc, hnodup hu, fun b hb => hall b (by revert b; decide)⟩

/-- The rows of one bank are kept apart by a row of another that is ranked between them. -/
theorem ranking_repeats_bank : ¬ ∀ (r : Registry) (q : Question) (m : Metric) (rows : List Row),
    r.metric? (q.metric.getD "") = some m → q.mode = .ranking →
      (∀ row ∈ rows, row.IsNumeric) → ∀ options : Options, ∃ c,
        ofRows? options r q rows = some c ∧ (c.series.map Series.bank).Nodup := by
  intro hall
  obtain ⟨m, hm⟩ : ∃ m, Registry.standard.metric? "IMOR" = some m :=
    Option.isSome_iff_exists.mp (by decide)
  have hv : ∀ row ∈ monthRows 0.05 0.04 0.03, row.IsNumeric := by decide +kernel
  obtain ⟨c, hc, hnodup⟩ := hall Registry.standard allBanksQuestion m _ hm rfl hv {}
  have hbanks : (ofRows? {} Registry.standard allBanksQuestion (monthRows 0.05 0.04 0.03)).map
      (fun c => c.series.map Series.bank) = some ["INVEX", "BBVA", "INVEX"] := by
    decide +kernel
  rw [hc, Option.map_some, Option.some.injEq] at hbanks
  rw [hbanks] at hnodup
  revert hnodup
  decide

end Chart

end BankQuery
