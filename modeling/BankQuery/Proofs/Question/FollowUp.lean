import BankQuery.Proofs.Question.Conversation

/-!
# Terms that are not served in a follow-up

A text that fails on its own names something that is not served: a term that the registry lists as
such, or a word in capitals that it does not know. After an earlier question the same text fails
again, or asks to clarify, with one exception. `Question.read_after_error` says that it becomes a
question if and only if it names a bank and no metric, its term is known by its capitals alone, and
the metric of the earlier question can be asked for in its place.
-/

namespace BankQuery

def Failure.term? : Failure → Option String
  | .unsupportedMetric term _ | .unsupportedBank term _ => some term
  | _ => none

namespace Reading

variable {r : Registry} {m : Mentions} {reading : Reading} {text : String} {failure : Failure}

theorem withoutMetric_eq_error (h : withoutMetric r m text = .error failure) :
    ∃ term, (r.unsupportedTermIn? m.words).or (r.unknownAcronym? text) = some term ∧
      failure = .unsupportedMetric term r.metricCodes := by
  unfold withoutMetric at h
  split at h
  · rename_i term hterm
    cases h
    exact ⟨term, hterm, rfl⟩
  · cases h

theorem withoutBank_eq_error {metric : String} (h : withoutBank r metric text = .error failure) :
    ∃ term, r.unknownAcronym? text = some term ∧ failure = .unsupportedBank term r.bankIds := by
  unfold withoutBank at h
  split at h
  · rename_i term hterm
    cases h
    exact ⟨term, hterm, rfl⟩
  · cases h

/-- A reading fails for want of a metric or of a bank, with a term in its place. -/
theorem conclude_eq_error (h : conclude r m reading text = .error failure) :
    (reading.metric = none ∧ ∃ term,
      (r.unsupportedTermIn? m.words).or (r.unknownAcronym? text) = some term ∧
        failure = .unsupportedMetric term r.metricCodes) ∨
    (reading.metric ≠ none ∧ reading.banks = [] ∧ ∃ term,
      r.unknownAcronym? text = some term ∧ failure = .unsupportedBank term r.bankIds) := by
  unfold conclude at h
  split at h
  · cases h
  · split at h
    · rename_i hmetric
      exact .inl ⟨hmetric, withoutMetric_eq_error h⟩
    · rename_i metric hmetric
      split at h
      · rename_i hbanks
        rw [Bool.and_eq_true, List.isEmpty_iff] at hbanks
        exact .inr ⟨by simp [hmetric], hbanks.1, withoutBank_eq_error h⟩
      · split at h <;> cases h

theorem exists_conclude_resolved_iff :
    (∃ q confidence, conclude r m reading text = .ok (.resolved q confidence)) ↔
      ∃ metric, reading.metric = some metric ∧ (reading.banks = [] → reading.mode = .ranking) ∧
        (reading.filters ≠ [] → isSegmented r metric = true) := by
  constructor
  · rintro ⟨q, confidence, h⟩
    obtain ⟨metric, hmetric, hbanks, hfilters, -⟩ := of_conclude h
    exact ⟨metric, hmetric, hbanks, hfilters⟩
  · rintro ⟨metric, hmetric, hbanks, hfilters⟩
    have hb : (reading.banks.isEmpty && reading.mode != .ranking) = false := by
      rw [Bool.and_eq_false_iff, bne_eq_false_iff_eq, List.isEmpty_eq_false_iff,
        or_iff_not_imp_left, not_not]
      exact hbanks
    have hf : (!reading.filters.isEmpty && !isSegmented r metric) = false := by
      rw [Bool.and_eq_false_iff, Bool.not_eq_false', Bool.not_eq_false', List.isEmpty_iff,
        or_iff_not_imp_left]
      exact hfilters
    have h : conclude r m reading text = .ok (resolved m reading metric) := by
      simp only [conclude, hmetric, Option.isNone_some, Bool.false_and, Bool.false_eq_true,
        if_false, hb, hf]
    exact ⟨_, _, h⟩

/-- A follow-up is concluded with the earlier question if what the text does not name holds no
term. -/
theorem unserved?_eq_none_iff : unserved? r m text = none ↔
    (m.metric = none → r.unsupportedTermIn? m.words = none) ∧
      (m.banks = [] → r.unknownAcronym? text = none) := by
  unfold unserved?
  rw [Option.or_eq_none_iff, Option.map_eq_none_iff, Option.map_eq_none_iff]
  cases m.metric <;> cases m.banks <;> simp

end Reading

namespace Mentions

variable {r : Registry} {m : Mentions} {text : String} {failure : Failure} {p : Question}

theorem mergedBanks_ne_nil (h : m.banks ≠ []) (prior : Option Question) :
    m.mergedBanks prior ≠ [] := by
  cases prior with
  | none => exact h
  | some p =>
    obtain ⟨b, hb⟩ := List.exists_mem_of_ne_nil _ h
    unfold mergedBanks
    dsimp only
    rw [if_neg (by simpa using h)]
    split
    · exact List.ne_nil_of_mem (mem_union.mpr (.inr hb))
    · exact h

def term? (m : Mentions) (r : Registry) (text : String) : Option String :=
  (if m.metric.isNone then r.unsupportedTermIn? m.words else none).or (r.unknownAcronym? text)

theorem term?_of_metric_eq (h : m.metric = none) :
    m.term? r text = (r.unsupportedTermIn? m.words).or (r.unknownAcronym? text) := by
  rw [term?, if_pos (Option.isNone_iff_eq_none.mpr h)]

theorem term?_of_metric_ne (h : m.metric ≠ none) : m.term? r text = r.unknownAcronym? text := by
  rw [term?, if_neg (mt Option.isNone_iff_eq_none.mp h), Option.none_or]

/-- The outcome for a text that is not empty. -/
def outcome (m : Mentions) (r : Registry) (prior : Option Question) (text : String) :
    Except Failure Outcome :=
  match prior.bind fun _ => Reading.unserved? r m text with
  | some failure => .error failure
  | none => Reading.conclude r m (m.merge r prior) text

theorem of_outcome_some {o : Outcome} (h : m.outcome r (some p) text = .ok o) :
    Reading.unserved? r m text = none ∧ Reading.conclude r m (m.merge r (some p)) text = .ok o := by
  unfold outcome at h
  dsimp only [Option.bind_some] at h
  split at h
  · cases h
  · exact ⟨‹_›, h⟩

/-- What a text names that fails on its own, and how it fails. -/
theorem of_outcome_none (h : m.outcome r none text = .error failure) :
    (m.metric = none ∧ ∃ term,
      (r.unsupportedTermIn? m.words).or (r.unknownAcronym? text) = some term ∧
        failure = .unsupportedMetric term r.metricCodes) ∨
    (m.metric ≠ none ∧ m.banks = [] ∧ ∃ term,
      r.unknownAcronym? text = some term ∧ failure = .unsupportedBank term r.bankIds) := by
  have hmetric : (m.merge r none).metric = none ↔ m.metric = none := by
    simp [merge]
  rcases Reading.conclude_eq_error h with ⟨hm, hterm⟩ | ⟨hm, hbanks, hterm⟩
  · exact .inl ⟨hmetric.mp hm, hterm⟩
  · exact .inr ⟨mt hmetric.mpr hm, hbanks, hterm⟩

/-- The earlier question gives a text that names a bank its metric, and the text has no term that is
listed as not served. -/
structure TakesMetric (r : Registry) (m : Mentions) (p : Question) : Prop where
  unnamed : m.metric = none
  banks : m.banks ≠ []
  unlisted : r.unsupportedTermIn? m.words = none
  carried : ∃ metric, p.metric = some metric ∧
    ((m.merge r (some p)).filters ≠ [] → Reading.isSegmented r metric = true)

theorem merge_metric (h : m.metric = none) : (m.merge r (some p)).metric = p.metric := by
  simp [merge, h]

/-- A text that names a metric fails in the same way after every question. -/
theorem outcome_some_of_metric (h : m.outcome r none text = .error failure) (hm : m.metric ≠ none) :
    m.outcome r (some p) text = .error failure := by
  rcases of_outcome_none h with ⟨hn, -⟩ | ⟨-, hbanks, term, hterm, rfl⟩
  · exact absurd hn hm
  · obtain ⟨mention, hmention⟩ := Option.ne_none_iff_exists'.mp hm
    simp [outcome, Reading.unserved?, hmention, hbanks, hterm]

theorem term?_of_unserved (h : Reading.unserved? r m text = some failure) :
    failure.term? = m.term? r text := by
  unfold Reading.unserved? at h
  unfold term?
  generalize (if m.metric.isNone then r.unsupportedTermIn? m.words else none) = listed at h ⊢
  cases listed with
  | some t =>
    cases h
    rfl
  | none =>
    obtain ⟨t, ht, rfl⟩ := Option.map_eq_some_iff.mp h
    split at ht
    · exact ht.symm
    · cases ht

theorem term?_of_outcome_none (h : m.outcome r none text = .error failure) :
    failure.term? = m.term? r text := by
  rcases of_outcome_none h with ⟨hm, t, ht, rfl⟩ | ⟨hm, -, t, ht, rfl⟩
  · rw [term?_of_metric_eq hm, ht, Failure.term?]
  · rw [term?_of_metric_ne hm, ht, Failure.term?]

theorem term?_of_outcome_some (h : m.outcome r (some p) text = .error failure) :
    failure.term? = m.term? r text := by
  cases hs : Reading.unserved? r m text with
  | some served =>
    obtain rfl : served = failure := by simpa [outcome, hs] using h
    exact term?_of_unserved hs
  | none =>
    have hc : Reading.conclude r m (m.merge r (some p)) text = .error failure := by
      simpa only [outcome, Option.bind_some, hs] using h
    rcases Reading.conclude_eq_error hc with ⟨hm, t, ht, rfl⟩ | ⟨-, hbanks, t, ht, -⟩
    · have hn : m.metric = none := by
        simpa [merge] using (Option.or_eq_none_iff.mp hm).1
      rw [term?_of_metric_eq hn, ht, Failure.term?]
    · have hb : m.banks = [] := by
        by_contra hne
        exact mergedBanks_ne_nil hne (some p) hbanks
      cases ((Reading.unserved?_eq_none_iff.mp hs).2 hb).symm.trans ht

theorem takesMetric_iff (h : m.outcome r none text = .error failure) :
    (∃ q confidence, m.outcome r (some p) text = .ok (.resolved q confidence)) ↔
      m.TakesMetric r p := by
  constructor
  · rintro ⟨q, confidence, hq⟩
    obtain ⟨hserved, hc⟩ := of_outcome_some hq
    obtain ⟨hlisted, hacronym⟩ := Reading.unserved?_eq_none_iff.mp hserved
    obtain ⟨metric, hmetric, -, hfilters⟩ :=
      Reading.exists_conclude_resolved_iff.mp ⟨q, confidence, hc⟩
    rcases of_outcome_none h with ⟨hm, term, hterm, -⟩ | ⟨-, hbanks, term, hterm, -⟩
    · rw [hlisted hm, Option.none_or] at hterm
      refine ⟨hm, fun hb => ?_, hlisted hm, metric, merge_metric hm ▸ hmetric, hfilters⟩
      cases (hacronym hb).symm.trans hterm
    · cases (hacronym hbanks).symm.trans hterm
  · rintro ⟨hm, hbanks, hlisted, metric, hmetric, hfilters⟩
    have hserved : Reading.unserved? r m text = none :=
      Reading.unserved?_eq_none_iff.mpr ⟨fun _ => hlisted, fun hb => absurd hb hbanks⟩
    have hout : m.outcome r (some p) text = Reading.conclude r m (m.merge r (some p)) text := by
      simp only [outcome, Option.bind_some, hserved]
    rw [hout]
    exact Reading.exists_conclude_resolved_iff.mpr ⟨metric, (merge_metric hm).trans hmetric,
      fun hb => absurd hb (mergedBanks_ne_nil hbanks (some p)), hfilters⟩

end Mentions

namespace Question

variable {r : Registry} {options : ReaderOptions} {anchor : Anchor} {prior : Option Question}
  {text : String}

theorem read_eq (h : Text.normalize text ≠ "") : read r options anchor prior text =
    (Mentions.of r options.threshold anchor text).outcome r prior text := by
  unfold read
  rw [if_neg h]
  generalize Mentions.of r options.threshold anchor text = m
  rfl

theorem normalize_ne_of_read_error {failure : Failure}
    (h : read r options anchor prior text = .error failure) : Text.normalize text ≠ "" := by
  intro hn
  unfold read at h
  rw [if_pos hn] at h
  cases h

/-- A text that fails on its own becomes a question after an earlier one if and only if it takes the
metric of the earlier one, and it is then asked about that metric. If it fails again, it reports the
same term, and a bank that is not served is reported after every question. -/
theorem read_after_error (r : Registry) (options : ReaderOptions) (anchor : Anchor) (p : Question)
    (text : String) (failure : Failure) (h : read r options anchor none text = .error failure) :
    ((∃ q confidence, read r options anchor (some p) text = .ok (.resolved q confidence)) ↔
      (Mentions.of r options.threshold anchor text).TakesMetric r p) ∧
    (∀ q confidence, read r options anchor (some p) text = .ok (.resolved q confidence) →
      q.metric = p.metric) ∧
    (∀ failure', read r options anchor (some p) text = .error failure' →
      failure'.term? = failure.term?) ∧
    ∀ term supported, failure = .unsupportedBank term supported →
      read r options anchor (some p) text = .error failure := by
  have hn := normalize_ne_of_read_error h
  rw [read_eq hn] at h ⊢
  generalize Mentions.of r options.threshold anchor text = m at h ⊢
  refine ⟨Mentions.takesMetric_iff h, fun q confidence hq => ?_, fun failure' hf => ?_, ?_⟩
  · have hm := ((Mentions.takesMetric_iff h).mp ⟨q, confidence, hq⟩).unnamed
    obtain ⟨metric, hmetric, -, -, rfl⟩ := Reading.of_conclude (Mentions.of_outcome_some hq).2
    exact hmetric.symm.trans (Mentions.merge_metric hm)
  · exact (Mentions.term?_of_outcome_some hf).trans (Mentions.term?_of_outcome_none h).symm
  · rintro term supported rfl
    refine Mentions.outcome_some_of_metric h fun hm => ?_
    rcases Mentions.of_outcome_none h with ⟨-, _, -, hf⟩ | ⟨hm', -⟩
    · cases hf
    · exact hm' hm

def failureOf? : Except Failure Outcome → Option Failure
  | .error failure => some failure
  | .ok _ => none

def questionOf? : Except Failure Outcome → Option Question
  | .ok (.resolved q _) => some q
  | _ => none

theorem eq_error_of_failureOf? {x : Except Failure Outcome} {failure : Failure}
    (h : failureOf? x = some failure) : x = .error failure := by
  cases x with
  | error _ => exact congrArg _ (Option.some.inj h)
  | ok _ => cases h

theorem eq_resolved_of_questionOf? {x : Except Failure Outcome} {q : Question}
    (h : questionOf? x = some q) : ∃ confidence, x = .ok (.resolved q confidence) := by
  unfold questionOf? at h
  split at h
  · cases h
    exact ⟨_, rfl⟩
  · cases h

def moraOfSur : Question where
  metric := some "MORA"
  banks := ["SUR"]
  range := ⟨midMonth.latest, midMonth.latest⟩
  mode := .single

theorem read_acronym : read twoBanks {} midMonth none "XYZ norte" =
    .error (.unsupportedMetric "XYZ" twoBanks.metricCodes) :=
  eq_error_of_failureOf? (by decide +kernel)

theorem read_after_error_acronym :
    read twoBanks {} midMonth none "XYZ norte" =
      .error (.unsupportedMetric "XYZ" twoBanks.metricCodes) ∧
    ((∃ q confidence, read twoBanks {} midMonth (some moraOfSur) "XYZ norte" =
        .ok (.resolved q confidence)) ↔
      (Mentions.of twoBanks ({} : ReaderOptions).threshold midMonth "XYZ norte").TakesMetric
        twoBanks moraOfSur) ∧
    (∀ q confidence, read twoBanks {} midMonth (some moraOfSur) "XYZ norte" =
      .ok (.resolved q confidence) → q.metric = moraOfSur.metric) ∧
    (∀ failure', read twoBanks {} midMonth (some moraOfSur) "XYZ norte" = .error failure' →
      failure'.term? = (Failure.unsupportedMetric "XYZ" twoBanks.metricCodes).term?) ∧
    ∀ term supported,
      Failure.unsupportedMetric "XYZ" twoBanks.metricCodes = .unsupportedBank term supported →
      read twoBanks {} midMonth (some moraOfSur) "XYZ norte" =
        .error (.unsupportedMetric "XYZ" twoBanks.metricCodes) :=
  ⟨read_acronym, read_after_error twoBanks {} midMonth moraOfSur "XYZ norte" _ read_acronym⟩

/-- A text that reports a term on its own may become a question about the earlier metric. -/
theorem read_replaces_term : ¬ ∀ (r : Registry) (options : ReaderOptions) (anchor : Anchor)
    (p : Question) (text : String) (term : String) (supported : List String),
    read r options anchor none text = .error (.unsupportedMetric term supported) ∨
      read r options anchor none text = .error (.unsupportedBank term supported) →
    ∀ q confidence, read r options anchor (some p) text ≠ .ok (.resolved q confidence) := by
  intro hall
  have hq : (questionOf? (read twoBanks {} midMonth (some moraOfSur) "XYZ norte")) =
      some { moraOfSur with banks := ["NORTE"] } := by
    decide +kernel
  obtain ⟨confidence, hq⟩ := eq_resolved_of_questionOf? hq
  exact hall twoBanks {} midMonth moraOfSur "XYZ norte" "XYZ" _ (.inl read_acronym) _ confidence hq

end Question

end BankQuery
