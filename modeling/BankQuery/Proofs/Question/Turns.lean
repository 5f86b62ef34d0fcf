import BankQuery.Proofs.Question.FollowUp

/-!
# What a turn takes from its text and what from the turn before

Without an earlier question all that is answered comes from the normal form of the text: how it is
typed only matters for the word in capitals that a failure reports
(`Question.read_of_normalize_eq`). After an earlier question a text that names nothing hands that
question on, without its number of places and its order, and in the mode that its banks suggest
(`Question.read_of_namesNothing`).
-/

namespace BankQuery

namespace Reading

variable {r : Registry} {m : Mentions} {reading : Reading} {a b : String} {q : Question}
  {confidence : Confidence}

/-- A conclusion looks at the text as it is typed for its word in capitals only. -/
theorem conclude_congr (h : r.unknownAcronym? a = r.unknownAcronym? b) :
    conclude r m reading a = conclude r m reading b := by
  simp only [conclude, withoutMetric, withoutBank, h]

/-- An answer comes from a branch that does not look at the text as it is typed. -/
theorem conclude_resolved_of_text (h : conclude r m reading a = .ok (.resolved q confidence)) :
    conclude r m reading b = .ok (.resolved q confidence) := by
  unfold conclude at h ⊢
  split at h
  · simp [clarify] at h
  · rename_i hsome
    rw [if_neg hsome]
    cases hmetric : reading.metric with
    | none =>
      rw [hmetric] at h
      exact absurd h withoutMetric_ne_resolved
    | some metric =>
      rw [hmetric] at h
      dsimp only at h ⊢
      split at h
      · exact absurd h withoutBank_ne_resolved
      · rename_i hbanks
        rw [if_neg hbanks]
        exact h

end Reading

namespace Mentions

theorem of_congr {a b : String} (h : Text.normalize a = Text.normalize b) (r : Registry)
    (threshold : Float) (anchor : Anchor) : of r threshold anchor a = of r threshold anchor b := by
  simp only [of, h]

theorem outcome_none (m : Mentions) (r : Registry) (text : String) :
    m.outcome r none text = Reading.conclude r m (m.merge r none) text := rfl

theorem outcome_some {r : Registry} {m : Mentions} {text : String}
    (h : Reading.unserved? r m text = none) (p : Question) :
    m.outcome r (some p) text = Reading.conclude r m (m.merge r (some p)) text := by
  simp only [outcome, Option.bind_some, h]

end Mentions

namespace Question

variable {r : Registry} {options : ReaderOptions} {anchor : Anchor} {prior : Option Question}
  {text : String} {p q : Question} {confidence : Confidence}

/-- Texts of one normal form are answered alike when there is no earlier question, and they fail
alike when they hold the same word in capitals. -/
theorem read_of_normalize_eq (r : Registry) (options : ReaderOptions) (anchor : Anchor)
    (a b : String) (h : Text.normalize a = Text.normalize b) :
    (∀ q confidence, read r options anchor none a = .ok (.resolved q confidence) ↔
      read r options anchor none b = .ok (.resolved q confidence)) ∧
    (r.unknownAcronym? a = r.unknownAcronym? b →
      read r options anchor none a = read r options anchor none b) := by
  by_cases hn : Text.normalize b = ""
  · have he : read r options anchor none a = read r options anchor none b := by
      unfold read
      rw [if_pos hn, if_pos (h.trans hn)]
    exact ⟨fun q confidence => by rw [he], fun _ => he⟩
  · have ha : Text.normalize a ≠ "" := fun he => hn (h.symm.trans he)
    rw [read_eq ha, read_eq hn, Mentions.of_congr h, Mentions.outcome_none, Mentions.outcome_none]
    generalize Mentions.of r options.threshold anchor b = m
    refine ⟨fun q confidence => ?_, Reading.conclude_congr⟩
    exact ⟨Reading.conclude_resolved_of_text, Reading.conclude_resolved_of_text⟩

theorem read_of_normalize_eq_capitals :
    Text.normalize "mora norte" = Text.normalize "¿MORA (Nórte)?" ∧
    ((∀ q confidence,
      read twoBanks {} midMonth none "mora norte" = .ok (.resolved q confidence) ↔
        read twoBanks {} midMonth none "¿MORA (Nórte)?" = .ok (.resolved q confidence)) ∧
    (twoBanks.unknownAcronym? "mora norte" = twoBanks.unknownAcronym? "¿MORA (Nórte)?" →
      read twoBanks {} midMonth none "mora norte" =
        read twoBanks {} midMonth none "¿MORA (Nórte)?")) ∧
    ∃ confidence, read twoBanks {} midMonth none "¿MORA (Nórte)?" =
      .ok (.resolved { moraOfSur with
        banks := ["NORTE"], range := DateRange.trailing midMonth.latest 12 } confidence) := by
  have hn : Text.normalize "mora norte" = Text.normalize "¿MORA (Nórte)?" := by decide
  exact ⟨hn, read_of_normalize_eq twoBanks {} midMonth _ _ hn,
    eq_resolved_of_questionOf? (by decide +kernel)⟩

/-- A question that a turn of a conversation with the registry has resolved to. Each turn may have
settings and an instant of its own. -/
inductive Reached (r : Registry) : Question → Prop where
  | first {options : ReaderOptions} {anchor : Anchor} {text : String} {q : Question}
      {confidence : Confidence}
      (h : read r options anchor none text = .ok (.resolved q confidence)) : Reached r q
  | next {options : ReaderOptions} {anchor : Anchor} {text : String} {p q : Question}
      {confidence : Confidence} (hp : Reached r p)
      (h : read r options anchor (some p) text = .ok (.resolved q confidence)) : Reached r q

theorem Reached.of_questionOf? (h : questionOf? (read r options anchor none text) = some q) :
    Reached r q := by
  obtain ⟨_, hq⟩ := eq_resolved_of_questionOf? h
  exact .first hq

theorem reached_of_read (hp : ∀ p, prior = some p → Reached r p)
    (h : read r options anchor prior text = .ok (.resolved q confidence)) : Reached r q := by
  cases prior with
  | none => exact .first h
  | some p => exact .next (hp p rfl) h

theorem reached_of_converse {texts : List String} (hp : ∀ p, prior = some p → Reached r p)
    (h : .ok (.resolved q confidence) ∈ converse r options anchor prior texts) : Reached r q := by
  induction texts generalizing prior with
  | nil => cases h
  | cons text rest ih =>
    unfold converse at h
    rcases List.mem_cons.mp h with h | h
    · exact reached_of_read hp h.symm
    · refine ih (fun p hnext => ?_) h
      split at hnext
      · rename_i hr
        cases hnext
        exact reached_of_read hp hr
      · exact hp p hnext

theorem Reached.isCoherent (hr : r.bankIds.Nodup) (h : Reached r q) : q.IsCoherent r := by
  induction h with
  | first h => exact isCoherent_of_read hr (fun _ hp => by cases hp) h
  | next _ h ih => exact isCoherent_of_read hr (fun _ hp => by cases hp; exact ih) h

end Question

namespace Cues

def ordering (words : List String) (normal : String) : Bool :=
  words.any (fun w => w ∈ ["menor", "menores", "mayor", "mayores", "mejores", "peores"]) ||
    ["mas bajo", "mas baja", "mas alto", "mas alta"].any (contains normal)

theorem order_of_ordering {words : List String} {normal : String}
    (h : ordering words normal = false) (higherIsWorse : Bool) :
    order words normal higherIsWorse = .descending := by
  have hw (w : String) (hw : w ∈ ["menor", "menores", "mayor", "mayores", "mejores", "peores"]) :
      w ∉ words := by
    intro hm
    rw [ordering, Bool.or_eq_false_iff, List.any_eq_false] at h
    simpa [hw] using h.1 w hm
  simp only [ordering, Bool.or_eq_false_iff, List.any_cons, List.any_nil, Bool.or_false] at h
  simp [order, hw, h.2]

end Cues

/-- A text that names no bank, metric, filter, period, number of places or term that is not served,
and has no word for a ranking, a comparison or an order. -/
structure Mentions.NamesNothing (r : Registry) (m : Mentions) (text : String) : Prop where
  banks : m.banks = []
  metric : m.metric = none
  filters : m.filters = []
  unlisted : r.unsupportedTermIn? m.words = none
  acronym : r.unknownAcronym? text = none
  period : m.period.explicit = false
  topN : m.topN = none
  ranking : m.rankingCue = false
  comparison : m.comparisonCue = false
  order : Cues.ordering (m.words.map Token.word) m.normal = false

namespace Question

variable {r : Registry} {options : ReaderOptions} {anchor : Anchor} {text : String} {p : Question}

/-- What a turn that names nothing makes of the question before it. -/
def carried (p : Question) : Question :=
  { p with
    mode :=
      if 2 ≤ p.banks.length then .compare
      else if p.mode = .ranking ∧ p.banks = [] then .ranking
      else .single
    topN := none
    order := .descending }

/-- When nothing of a coherent question is lost. -/
theorem carried_eq_iff (h : p.IsCoherent r) : p.carried = p ↔
    p.topN = none ∧ p.order = .descending ∧ (p.mode = .compare → 2 ≤ p.banks.length) ∧
      (p.mode = .ranking → p.banks = []) := by
  have hs := h.single
  obtain ⟨metric, banks, range, filters, mode, topN, order⟩ := p
  simp only [carried, Question.mk.injEq, true_and] at hs ⊢
  have hb (hb : banks = []) : ¬ 2 ≤ banks.length := by simp [hb]
  cases mode with
  | single =>
    obtain ⟨b, rfl⟩ := hs rfl
    simp [eq_comm]
  | compare =>
    by_cases h2 : 2 ≤ banks.length
    · simp [h2, eq_comm]
    · simp [h2]
  | ranking =>
    by_cases hn : banks = []
    · simp [hn, eq_comm]
    · by_cases h2 : 2 ≤ banks.length
      · simp [h2, hn]
      · simp [h2, hn]

end Question

namespace Mentions

variable {r : Registry} {m : Mentions} {text : String} {p : Question}

theorem NamesNothing.mode_eq (h : m.NamesNothing r text) :
    m.mode (some p) p.banks = p.carried.mode := by
  by_cases h2 : 2 ≤ p.banks.length
  · simp [mode, Question.carried, h.ranking, h.topN, h2]
  · simp [mode, Question.carried, h.ranking, h.topN, h.comparison, h2]

theorem NamesNothing.merge_eq (h : m.NamesNothing r text) : m.merge r (some p) =
    { metric := p.metric
      metricConfidence := (m.merge r (some p)).metricConfidence
      banks := p.banks
      range := p.range
      filters := p.filters
      mode := p.carried.mode
      order := .descending } := by
  have hb : m.mergedBanks (some p) = p.banks := by simp [mergedBanks, h.banks]
  have ho := Cues.order_of_ordering h.order
  simp [merge, h.metric, h.filters, h.period, hb, h.mode_eq, ho]

end Mentions

namespace Question

/-- Only a ranking does without a bank. -/
theorem IsCoherent.mode_eq_ranking {r : Registry} {p : Question} (h : p.IsCoherent r)
    (hb : p.banks = []) : p.mode = .ranking := by
  have he := (Bool.and_eq_true_iff.mp h.executable).2
  simpa [hb] using he

theorem IsCoherent.carried_mode {r : Registry} {p : Question} (h : p.IsCoherent r)
    (hb : p.banks = []) : p.carried.mode = .ranking := by
  simp [carried, hb, h.mode_eq_ranking hb]

/-- A text that names nothing, after a question of the conversation, is answered with that question
without its number of places and its order, in the mode that its banks suggest. It is the question
itself if and only if it had no number of places, began with the highest, compared two banks at
least if it compared, and ranked all banks if it ranked. -/
theorem read_of_namesNothing (r : Registry) (h : r.check = .ok ()) (options : ReaderOptions)
    (anchor : Anchor) (p : Question) (hp : Reached r p) (text : String)
    (hn : Text.normalize text ≠ "")
    (ht : (Mentions.of r options.threshold anchor text).NamesNothing r text) :
    (∃ confidence, read r options anchor (some p) text = .ok (.resolved p.carried confidence)) ∧
    (p.carried = p ↔
      p.topN = none ∧ p.order = .descending ∧ (p.mode = .compare → 2 ≤ p.banks.length) ∧
        (p.mode = .ranking → p.banks = [])) := by
  have hc : p.IsCoherent r := hp.isCoherent (Registry.nodup_bankIds h)
  refine ⟨?_, carried_eq_iff hc⟩
  rw [read_eq hn]
  generalize Mentions.of r options.threshold anchor text = m at ht
  have hserved : Reading.unserved? r m text = none :=
    Reading.unserved?_eq_none_iff.mpr ⟨fun _ => ht.unlisted, fun _ => ht.acronym⟩
  rw [Mentions.outcome_some hserved]
  obtain ⟨code, -, hcode⟩ := hc.metric
  have hresolved : ∃ q confidence,
      Reading.conclude r m (m.merge r (some p)) text = .ok (.resolved q confidence) := by
    rw [Reading.exists_conclude_resolved_iff, ht.merge_eq]
    refine ⟨code, hcode, hc.carried_mode, fun hf => ?_⟩
    obtain ⟨metric, hmetric, hs⟩ := hc.segmented hf
    rw [hcode, Option.bind_some] at hmetric
    simp [Reading.isSegmented, hmetric, hs]
  obtain ⟨q, confidence, hq⟩ := hresolved
  obtain ⟨metric, hmetric, -, -, hqe⟩ := Reading.of_conclude hq
  have he : q = p.carried := by
    rw [hqe, ← hmetric, ht.merge_eq]
    simp [carried, ht.topN]
  exact ⟨confidence, by rw [hq, he]⟩

theorem namesNothing_ahora : (Mentions.of twoBanks ({} : ReaderOptions).threshold midMonth
    "ahora").NamesNothing twoBanks "ahora" where
  banks := by decide
  metric := Option.isNone_iff_eq_none.mp (by decide)
  filters := by decide
  unlisted := by decide
  acronym := by decide
  period := by decide
  topN := by decide
  ranking := by decide
  comparison := by decide
  order := by decide

theorem reached_moraOfSur : Reached twoBanks moraOfSur := by
  have hq : questionOf? (read twoBanks {} midMonth none "mora sur junio 2025") =
      some moraOfSur := by
    decide +kernel
  exact .of_questionOf? hq

def fiveByMora : Question :=
  { moraOfSur with banks := [], mode := .ranking, topN := some 5 }

theorem reached_fiveByMora : Reached twoBanks fiveByMora := by
  have hq : questionOf? (read twoBanks {} midMonth none "mora top 5 junio 2025") =
      some fiveByMora := by
    decide +kernel
  exact .of_questionOf? hq

theorem check_twoBanks : twoBanks.check = .ok () := by decide

theorem read_of_namesNothing_ahora : twoBanks.check = .ok () ∧ Reached twoBanks moraOfSur ∧
    Text.normalize "ahora" ≠ "" ∧
    (Mentions.of twoBanks ({} : ReaderOptions).threshold midMonth "ahora").NamesNothing twoBanks
      "ahora" ∧
    (∃ confidence, read twoBanks {} midMonth (some moraOfSur) "ahora" =
      .ok (.resolved moraOfSur.carried confidence)) ∧
    (moraOfSur.carried = moraOfSur ↔
      moraOfSur.topN = none ∧ moraOfSur.order = .descending ∧
        (moraOfSur.mode = .compare → 2 ≤ moraOfSur.banks.length) ∧
        (moraOfSur.mode = .ranking → moraOfSur.banks = [])) := by
  have hn : Text.normalize "ahora" ≠ "" := by decide
  exact ⟨check_twoBanks, reached_moraOfSur, hn, namesNothing_ahora,
    read_of_namesNothing twoBanks check_twoBanks {} midMonth moraOfSur reached_moraOfSur "ahora" hn
      namesNothing_ahora⟩

/-- A text that names nothing takes the number of places away. -/
theorem read_forgets_places : ¬ ∀ (r : Registry), r.check = .ok () →
    ∀ (options : ReaderOptions) (anchor : Anchor) (p : Question), Reached r p →
    ∀ (text : String), Text.normalize text ≠ "" →
    (Mentions.of r options.threshold anchor text).NamesNothing r text →
    ∃ confidence, read r options anchor (some p) text = .ok (.resolved p confidence) := by
  intro hall
  obtain ⟨confidence, hq⟩ := hall twoBanks check_twoBanks {} midMonth fiveByMora reached_fiveByMora
    "ahora" (by decide) namesNothing_ahora
  have hk : questionOf? (read twoBanks {} midMonth (some fiveByMora) "ahora") =
      some { fiveByMora with topN := none } := by decide +kernel
  rw [hq] at hk
  cases hk

end Question

end BankQuery
