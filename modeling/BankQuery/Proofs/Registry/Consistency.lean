import BankQuery.Registry.Basic
import Mathlib.Data.List.Nodup

/-!
# Consistent registries

What the check of a registry lets through: `Registry.check_eq_ok_iff` says that it is exactly the
consistent registries. What is proved of a registry that passes its check starts from there.
-/

namespace BankQuery.Registry

/-- Identifiers are told apart in upper case, and the metrics stand in the tables that are asked
for them. -/
structure IsConsistent (r : Registry) : Prop where
  banks : (r.banks.map fun b => Text.upper b.id).Nodup
  metrics : (r.metrics.map fun m => Text.upper m.code).Nodup
  primary : ∃ t, r.schema.primary? = some t ∧ ∀ m ∈ r.metrics, t.hasColumn m.column = true
  segments : ∀ m ∈ r.metrics, m.segmented = true →
    ∃ t, r.schema.segments? = some t ∧ t.hasColumn m.column = true
  filters : r.filters ≠ [] → r.schema.segments?.isSome = true

theorem checkBanks_eq_ok_iff {seen : List String} {banks : List Bank} :
    checkBanks seen banks = .ok () ↔ (banks.map fun b => Text.upper b.id).Nodup ∧
      ∀ b ∈ banks, Text.upper b.id ∉ seen := by
  induction banks generalizing seen with
  | nil => simp [checkBanks]
  | cons b rest ih =>
    unfold checkBanks
    by_cases hb : Text.upper b.id ∈ seen
    · simp [hb]
    · rw [if_neg hb, ih, List.map_cons, List.nodup_cons, List.forall_mem_cons]
      simp only [List.mem_cons, not_or, List.mem_map, not_exists, not_and, forall_and]
      exact ⟨fun ⟨hn, hne, hs⟩ => ⟨⟨hne, hn⟩, hb, hs⟩, fun ⟨⟨hne, hn⟩, _, hs⟩ => ⟨hn, hne, hs⟩⟩

section Metrics

variable {primary : Table} {segments : Option Table}

theorem checkMetric_eq_ok_iff {m : Metric} : checkMetric primary segments m = .ok () ↔
    primary.hasColumn m.column = true ∧
      (m.segmented = true → ∃ t, segments = some t ∧ t.hasColumn m.column = true) := by
  unfold checkMetric
  by_cases hp : primary.hasColumn m.column = true
  · by_cases hs : m.segmented = true
    · cases segments with
      | none => simp [hp, hs]
      | some t => by_cases ht : t.hasColumn m.column = true <;> simp [hp, hs, ht]
    · simp [hp, hs]
  · simp [hp]

theorem checkMetrics_eq_ok_iff {seen : List String} {metrics : List Metric} :
    checkMetrics primary segments seen metrics = .ok () ↔
      (metrics.map fun m => Text.upper m.code).Nodup ∧
      ∀ m ∈ metrics, Text.upper m.code ∉ seen ∧ checkMetric primary segments m = .ok () := by
  induction metrics generalizing seen with
  | nil => simp [checkMetrics]
  | cons m rest ih =>
    unfold checkMetrics
    by_cases hm : Text.upper m.code ∈ seen
    · simp [hm]
    · rw [if_neg hm, List.map_cons, List.nodup_cons, List.forall_mem_cons]
      cases hc : checkMetric primary segments m with
      | error fault => simp
      | ok _ =>
        dsimp only
        rw [ih]
        simp only [List.mem_cons, not_or, List.mem_map, not_exists, not_and, forall_and]
        exact ⟨fun ⟨hn, ⟨hne, hs⟩, ho⟩ => ⟨⟨hne, hn⟩, ⟨hm, trivial⟩, hs, ho⟩,
          fun ⟨⟨hne, hn⟩, _, hs, ho⟩ => ⟨hn, ⟨hne, hs⟩, ho⟩⟩

end Metrics

variable {r : Registry}

theorem check_eq_ok_iff : r.check = .ok () ↔ r.IsConsistent := by
  unfold check
  cases hp : r.schema.primary? with
  | none =>
    refine ⟨fun h => ?_, fun h => ?_⟩
    · cases h
    · obtain ⟨t, ht, -⟩ := h.primary
      cases hp.symm.trans ht
  | some primary =>
    have hbanks := @checkBanks_eq_ok_iff [] r.banks
    have hmetrics := @checkMetrics_eq_ok_iff primary r.schema.segments? [] r.metrics
    simp only [List.not_mem_nil, not_false_eq_true, implies_true, and_true, true_and,
      checkMetric_eq_ok_iff, forall_and] at hbanks hmetrics
    refine ⟨fun h => ?_, fun h => ?_⟩
    · dsimp only at h
      split at h
      · cases h
      · rename_i hb
        split at h
        · cases h
        · rename_i hm
          obtain ⟨hcodes, hcolumns, hsegments⟩ := hmetrics.mp hm
          refine ⟨hbanks.mp hb, hcodes, ⟨primary, hp, hcolumns⟩, hsegments, fun hf => ?_⟩
          cases hs : r.schema.segments? with
          | none => simp [hs, hf] at h
          | some t => rfl
    · obtain ⟨t, ht, hcolumns⟩ := h.primary
      cases hp.symm.trans ht
      dsimp only
      rw [hbanks.mpr h.banks]
      dsimp only
      rw [hmetrics.mpr ⟨h.metrics, hcolumns, h.segments⟩]
      cases hf : r.filters with
      | nil => rfl
      | cons f fs =>
        obtain ⟨t, ht⟩ := Option.isSome_iff_exists.mp (h.filters (by simp [hf]))
        rw [ht]
        rfl

theorem nodup_bankIds (h : r.check = .ok ()) : r.bankIds.Nodup := by
  have hn := (check_eq_ok_iff.mp h).banks
  rw [show (r.banks.map fun b => Text.upper b.id) = r.bankIds.map Text.upper by
    rw [bankIds, List.map_map]; rfl] at hn
  exact hn.of_map

theorem nodup_metricCodes (h : r.check = .ok ()) : r.metricCodes.Nodup := by
  have hn := (check_eq_ok_iff.mp h).metrics
  rw [show (r.metrics.map fun m => Text.upper m.code) = r.metricCodes.map Text.upper by
    rw [metricCodes, List.map_map]; rfl] at hn
  exact hn.of_map

end BankQuery.Registry
