import BankQuery.Proofs.Question.FollowUp

/-!
# The same text twice

What a turn takes over from the question before it is also in the question that it resolves to. So a
text that is read again after its own question finds there all that it has taken over, and it
resolves to the same question: `Question.read_repeated`. A conversation that says the same text any
number of times stays where it is: `Question.converse_replicate`.
-/

namespace BankQuery

structure Question.IsOf (q : Question) (reading : Reading) : Prop where
  metric : q.metric = reading.metric
  banks : q.banks = reading.banks
  range : q.range = reading.range
  filters : q.filters = reading.filters
  mode : q.mode = reading.mode

theorem Question.isOf_of_conclude {r : Registry} {m : Mentions} {reading : Reading} {text : String}
    {q : Question} {confidence : Confidence}
    (h : Reading.conclude r m reading text = .ok (.resolved q confidence)) : q.IsOf reading := by
  obtain ⟨metric, hmetric, -, -, rfl⟩ := Reading.of_conclude h
  exact ⟨hmetric.symm, rfl, rfl, rfl, rfl⟩

namespace Mentions

variable {r : Registry} {m : Mentions} {p q : Question}

theorem union_of_subset {earlier banks : List String} (h : ∀ b ∈ banks, b ∈ earlier) :
    union earlier banks = earlier := by
  induction banks with
  | nil => rfl
  | cons b rest ih =>
    obtain ⟨hb, hrest⟩ := List.forall_mem_cons.mp h
    rw [union, if_pos hb]
    exact ih hrest

/-- Banks that have been added are not added again. -/
theorem mergedBanks_again (h : q.banks = m.mergedBanks (some p)) :
    m.mergedBanks (some q) = m.mergedBanks (some p) := by
  by_cases hb : m.banks.isEmpty
  · simp only [mergedBanks, if_pos hb] at h ⊢
    exact h
  · by_cases hc : m.comparisonCue
    · simp only [mergedBanks, if_neg hb, if_pos hc] at h ⊢
      rw [h]
      apply union_of_subset
      intro b hb
      exact mem_union.mpr (.inr hb)
    · simp only [mergedBanks, if_neg hb, if_neg hc]

/-- Only the ranking of all banks is taken over from the earlier question, and it is a ranking. -/
theorem mode_again {banks : List String} (h : q.mode = m.mode (some p) banks) :
    m.mode (some q) banks = m.mode (some p) banks := by
  by_cases hr : m.rankingCue || m.topN.isSome
  · simp only [mode, if_pos hr]
  · by_cases hc : m.comparisonCue || decide (2 ≤ banks.length)
    · simp only [mode, if_neg hr, if_pos hc]
    · simp only [mode, if_neg hr, if_neg hc] at h ⊢
      by_cases hp : p.mode == .ranking && banks.isEmpty
      · obtain ⟨-, hempty⟩ := Bool.and_eq_true_iff.mp hp
        rw [if_pos hp] at h ⊢
        rw [h, hempty]
        rfl
      · rw [if_neg hp] at h ⊢
        rw [h]
        rfl

/-- A merge is the same after its own question. -/
theorem merge_again (h : q.IsOf (m.merge r (some p))) :
    m.merge r (some q) = m.merge r (some p) := by
  have hmetric : (m.metric.map MetricMention.code).or ((some q).bind Question.metric) =
      (m.metric.map MetricMention.code).or ((some p).bind Question.metric) := by
    have hcode : q.metric = (m.metric.map MetricMention.code).or p.metric := h.metric
    rw [Option.bind_some, Option.bind_some, hcode]
    cases m.metric with
    | none => rfl
    | some mention => rfl
  have hbanks : m.mergedBanks (some q) = m.mergedBanks (some p) := mergedBanks_again h.banks
  have hmode : m.mode (some q) (m.mergedBanks (some p)) = m.mode (some p) (m.mergedBanks (some p)) :=
    mode_again h.mode
  have hrange : (if m.period.explicit then m.period.range else q.range) =
      if m.period.explicit then m.period.range else p.range := by
    rw [h.range, merge]
    by_cases he : m.period.explicit
    · rw [if_pos he, if_pos he]
    · simp only [if_neg he]
  have hfilters : (if m.filters.isEmpty then q.filters else m.filters) =
      if m.filters.isEmpty then p.filters else m.filters := by
    rw [h.filters, merge]
    by_cases he : m.filters.isEmpty
    · simp only [if_pos he]
    · rw [if_neg he, if_neg he]
  simp only [merge, hmetric, hbanks, hmode, hrange, hfilters]

/-- After the question that it has led to, a text leads to that question. -/
theorem outcome_again {text : String} {confidence : Confidence}
    (h : m.outcome r (some p) text = .ok (.resolved q confidence)) :
    m.outcome r (some q) text = .ok (.resolved q confidence) := by
  obtain ⟨hserved, hc⟩ := of_outcome_some h
  have hmerge : m.merge r (some q) = m.merge r (some p) :=
    merge_again (Question.isOf_of_conclude hc)
  unfold outcome
  rw [Option.bind_some, hserved, hmerge]
  exact hc

end Mentions

namespace Question

variable {r : Registry} {options : ReaderOptions} {anchor : Anchor} {p q : Question}
  {text : String} {confidence : Confidence}

theorem normalize_ne_of_read_resolved {prior : Option Question}
    (h : read r options anchor prior text = .ok (.resolved q confidence)) :
    Text.normalize text ≠ "" := by
  intro hn
  unfold read at h
  rw [if_pos hn] at h
  simp [Reading.clarify] at h

theorem read_again (h : read r options anchor (some p) text = .ok (.resolved q confidence)) :
    read r options anchor (some q) text = .ok (.resolved q confidence) := by
  have hn := normalize_ne_of_read_resolved h
  rw [read_eq hn] at h ⊢
  exact Mentions.outcome_again h

/-- A text that leads back to the question before it does so however often it is said. -/
theorem converse_replicate
    (h : read r options anchor (some q) text = .ok (.resolved q confidence)) (n : Nat) :
    converse r options anchor (some q) (List.replicate n text) =
      List.replicate n (.ok (.resolved q confidence)) := by
  induction n with
  | zero => rfl
  | succ n ih =>
    rw [List.replicate_succ, List.replicate_succ, converse, h]
    dsimp only
    rw [ih]

/-- A text that becomes a question after an earlier one becomes the same question, with the same
confidence, when it is said again, and any number of times after that. -/
theorem read_repeated (r : Registry) (options : ReaderOptions) (anchor : Anchor) (p : Question)
    (text : String) (q : Question) (confidence : Confidence)
    (h : read r options anchor (some p) text = .ok (.resolved q confidence)) :
    read r options anchor (some q) text = .ok (.resolved q confidence) ∧
    ∀ n, converse r options anchor (some p) (List.replicate n text) =
      List.replicate n (.ok (.resolved q confidence)) := by
  refine ⟨read_again h, fun n => ?_⟩
  cases n with
  | zero => rfl
  | succ n =>
    rw [List.replicate_succ, List.replicate_succ, converse, h]
    dsimp only
    rw [converse_replicate (read_again h) n]

def moraOfBoth : Question :=
  { moraOfSur with banks := ["SUR", "NORTE"], mode := .compare }

theorem read_repeated_norte : ∃ confidence,
    read twoBanks {} midMonth (some moraOfSur) "vs norte" = .ok (.resolved moraOfBoth confidence) ∧
    read twoBanks {} midMonth (some moraOfBoth) "vs norte" =
      .ok (.resolved moraOfBoth confidence) ∧
    ∀ n, converse twoBanks {} midMonth (some moraOfSur) (List.replicate n "vs norte") =
      List.replicate n (.ok (.resolved moraOfBoth confidence)) := by
  have hq : questionOf? (read twoBanks {} midMonth (some moraOfSur) "vs norte") =
      some moraOfBoth := by
    decide +kernel
  obtain ⟨confidence, h⟩ := eq_resolved_of_questionOf? hq
  exact ⟨confidence, h, read_repeated twoBanks {} midMonth moraOfSur "vs norte" _ _ h⟩

end Question

end BankQuery
