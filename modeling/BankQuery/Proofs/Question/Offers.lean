import BankQuery.Proofs.Question.Turns
import BankQuery.Proofs.Registry.StandardAliases

/-!
# Options offered with a request to clarify

A request to clarify offers texts that can be asked in its place. `Question.read_offered` says for
the standard registry that at least one is offered, and that the same is not asked for again when
one of them is read, with one exception: a text that names no filter takes those of the earlier
question, so the option to leave the filters out leads back to the request it came from.
-/

namespace BankQuery

inductive Ask where
  | text
  | subject
  | metric
  | bank
  | unfiltered (code : String)

namespace Ask

def reason : Ask → String
  | .text => "La consulta está vacía."
  | .subject => "No identifiqué la métrica ni el banco de la consulta."
  | .metric => "¿Qué métrica te interesa?"
  | .bank => "¿De qué banco quieres ver la métrica?"
  | .unfiltered code => code ++ " no se publica por segmento de crédito."

theorem reason_unfiltered_ne {code text : String}
    (h : ¬ " no se publica por segmento de crédito.".toList <:+ text.toList) :
    (unfiltered code).reason ≠ text := by
  rintro rfl
  exact h ⟨code.toList, by rw [reason, String.toList_append]⟩

theorem reason_injective : Function.Injective reason := by
  intro a b h
  cases a with
  | unfiltered code =>
    cases b with
    | unfiltered code' =>
      have hl := congrArg String.toList h
      rw [reason, reason, String.toList_append, String.toList_append] at hl
      rw [String.toList_inj.mp (List.append_cancel_right hl)]
    | text | subject | metric | bank => exact absurd h (reason_unfiltered_ne (by decide))
  | text | subject | metric | bank =>
    cases b with
    | unfiltered code' => exact absurd h.symm (reason_unfiltered_ne (by decide))
    | text | subject | metric | bank => first | rfl | exact absurd h (by decide)

end Ask

namespace Reading

def withoutFilters (metric : String) (banks : List String) : String :=
  metric ++ " de " ++ ", ".intercalate banks ++ " sin filtro de segmento"

/-- What a reading lacks, and the options offered for it. -/
inductive Lacks (r : Registry) (reading : Reading) : Ask → List String → Prop where
  | subject (hm : reading.metric = none) : Lacks r reading .subject examples
  | metric (hm : reading.metric = none) :
      Lacks r reading .metric (r.metrics.map fun m => m.code ++ " (" ++ m.displayName ++ ")")
  | bank {metric : String} (hm : reading.metric = some metric) (hb : reading.banks = []) :
      Lacks r reading .bank (r.banks.map fun b => metric ++ " de " ++ b.displayName)
  | unfiltered {metric : String} (hm : reading.metric = some metric) (hf : reading.filters ≠ [])
      (hs : isSegmented r metric = false) :
      Lacks r reading (.unfiltered metric) [withoutFilters metric reading.banks]

variable {r : Registry} {m : Mentions} {reading : Reading} {text reason : String}
  {offered : List String}

theorem clarify_of_ne {options : List String} (h : options ≠ []) :
    clarify reason options = .clarification reason options := by
  rw [clarify, if_neg (mt List.isEmpty_iff.mp h)]

theorem lacks_of_conclude (hmetrics : r.metrics ≠ []) (hbanks : r.banks ≠ [])
    (h : conclude r m reading text = .ok (.clarification reason offered)) :
    ∃ ask : Ask, reason = ask.reason ∧ reading.Lacks r ask offered := by
  unfold conclude at h
  split at h
  · rename_i hnone
    cases h
    simp only [Bool.and_eq_true, Option.isNone_iff_eq_none] at hnone
    exact ⟨.subject, rfl, .subject hnone.1.1⟩
  · split at h
    · rename_i hmetric
      unfold withoutMetric at h
      split at h
      · cases h
      · rw [clarify_of_ne (by simpa using hmetrics)] at h
        cases h
        exact ⟨.metric, rfl, .metric hmetric⟩
    · rename_i metric hmetric
      split at h
      · rename_i hb
        rw [Bool.and_eq_true, List.isEmpty_iff] at hb
        unfold withoutBank at h
        split at h
        · cases h
        · rw [clarify_of_ne (by simpa using hbanks)] at h
          cases h
          exact ⟨.bank, rfl, .bank hmetric hb.1⟩
      · split at h
        · rename_i hf
          cases h
          simp only [Bool.and_eq_true, Bool.not_eq_true', List.isEmpty_eq_false_iff] at hf
          exact ⟨.unfiltered metric, rfl, .unfiltered hmetric hf.1 hf.2⟩
        · cases h

theorem conclude_of_unfiltered {metric : String} (hm : reading.metric = some metric)
    (hb : reading.banks = [] → reading.mode = .ranking) (hf : reading.filters ≠ [])
    (hs : isSegmented r metric = false) : conclude r m reading text =
      .ok (.clarification (Ask.unfiltered metric).reason
        [withoutFilters metric reading.banks]) := by
  have hbanks : (reading.banks.isEmpty && reading.mode != .ranking) = false := by
    rw [Bool.and_eq_false_iff, bne_eq_false_iff_eq, List.isEmpty_eq_false_iff,
      or_iff_not_imp_left, not_not]
    exact hb
  have hfilters : (!reading.filters.isEmpty && !isSegmented r metric) = true := by
    rw [hs, List.isEmpty_eq_false_iff.mpr hf]
    rfl
  simp only [conclude, hm, Option.isNone_some, Bool.false_and, Bool.false_eq_true, if_false, hbanks,
    hfilters, if_true]
  rfl

theorem pieces_withoutFilters {pieces : String → List String} (hnil : pieces "" = [])
    (hblank : ∀ s t, pieces (s ++ " " ++ t) = pieces s ++ pieces t)
    (hcomma : ∀ s t, pieces (s ++ ", " ++ t) = pieces s ++ pieces t) (metric : String)
    (banks : List String) : pieces (withoutFilters metric banks) = pieces metric ++
      (pieces "de" ++ (banks.flatMap pieces ++ pieces "sin filtro de segmento")) := by
  have hde : " de " = " " ++ "de" ++ " " := by decide
  have hsin : " sin filtro de segmento" = " " ++ "sin filtro de segmento" := by decide
  have hsplit : withoutFilters metric banks = metric ++ " " ++
      ("de" ++ " " ++ (", ".intercalate banks ++ " " ++ "sin filtro de segmento")) := by
    rw [withoutFilters, hde, hsin]
    simp only [String.append_assoc]
  rw [hsplit, hblank, hblank, hblank, Text.intercalate_flatMap hnil hcomma]

theorem words_withoutFilters (metric : String) (banks : List String) :
    Text.words (withoutFilters metric banks) = Text.words metric ++
      ("de" :: (banks.flatMap Text.words ++ ["sin", "filtro", "de", "segmento"])) :=
  pieces_withoutFilters rfl (Text.words_append (by decide) (by decide))
    (Text.words_append (by decide) (by decide)) metric banks

theorem words_withoutFilters_ne_nil {metric : String} {banks : List String} :
    Text.words (withoutFilters metric banks) ≠ [] := by
  rw [words_withoutFilters]
  exact List.append_ne_nil_of_right_ne_nil _ (List.cons_ne_nil _ _)

theorem rawWords_withoutFilters (metric : String) (banks : List String) :
    Text.rawWords (withoutFilters metric banks) = Text.rawWords metric ++
      ("de" :: (banks.flatMap Text.rawWords ++ ["sin", "filtro", "de", "segmento"])) :=
  pieces_withoutFilters rfl (Text.rawWords_append (by decide) (by decide))
    (Text.rawWords_append (by decide) (by decide)) metric banks

end Reading

namespace Registry

/-- What a form of an entry names is found. -/
theorem namedIn_ne_none {α : Type} {entries : List α} {forms : α → List String} {e : α}
    {text : String} (he : e ∈ entries) (ht : text ∈ forms e) (hne : Text.words text ≠ []) :
    namedIn entries forms text ≠ none := by
  rw [namedIn, if_neg (Text.normalize_ne_of_words hne), ne_eq, List.find?_eq_none]
  intro h
  exact h e he (List.any_eq_true.mpr ⟨text, ht, beq_self_eq_true _⟩)

theorem isUnknownAcronym_of_named {r : Registry} {word : String}
    (h : r.bankNamed? word ≠ none ∨ r.metricNamed? word ≠ none) :
    r.isUnknownAcronym word = false := by
  rcases h with h | h <;>
    simp [isUnknownAcronym, Option.isNone_eq_false_iff.mpr (Option.isSome_iff_ne_none.mpr h)]

def standardKeywords : List String := ["imor", "icor", "icap", "cartera", "reservas"]

theorem isKeyword_standard : ∀ w ∈ standardKeywords, standard.IsKeyword w := by
  have h : ∀ w ∈ standardKeywords, (∃ a ∈ standard.metricAliases, a.words = [w]) ∧
      ∀ a ∈ standard.bankAliases, w ∉ a.words := by
    rw [standard_metricAliases, standard_bankAliases]
    decide
  exact fun w hw => ⟨(h w hw).1, (h w hw).2⟩

theorem nodup_standardBankIds : standard.bankIds.Nodup := by decide

theorem examples_keyword : ∀ o ∈ Reading.examples ++ standard.metricCodes,
    ∃ w ∈ standardKeywords, w ∈ Text.words o := by
  simp only [Text.words_eq]
  decide

theorem standardBanks_words : ∀ b ∈ standard.banks, Text.words b.displayName ≠ [] ∧
    Text.rawWords b.id = [b.id] ∧ Text.words b.id ≠ [] := by
  simp only [Text.words_eq]
  decide

/-- A metric that is not published by segment has a code of one word, with which no alias of another
metric begins. -/
theorem standard_unsegmented : ∀ code ∈ standard.metricCodes,
    Reading.isSegmented standard code = false → Text.rawWords code = [code] ∧
      ∃ w ∈ standardKeywords, Text.words code = [w] ∧ ∀ a ∈ standard.metricAliases,
        a.words.head? = some w → standard.metricCodes[a.entry]? = some code := by
  rw [standard_metricAliases]
  simp only [Text.words_eq]
  decide

def unfilteredWords : List String :=
  standardKeywords ++ "de" :: (standard.bankIds.flatMap Text.words ++
    ["sin", "filtro", "de", "segmento"])

/-- These words make up no filter, and none of them asks to compare. -/
theorem unfilteredWords_quiet :
    (∀ a ∈ standard.filterAliases, ∃ w ∈ a.words, w ∉ unfilteredWords) ∧
      ∀ w ∈ unfilteredWords, w ∉ Cues.comparison := by
  have hwords : unfilteredWords = standardKeywords ++ "de" ::
      (standard.bankIds.flatMap (fun id => Text.words id) ++
        ["sin", "filtro", "de", "segmento"]) := rfl
  rw [standard_filterAliases, hwords]
  simp only [Text.words_eq]
  decide

theorem isUnknownAcronym_small : ∀ w ∈ ["sin", "filtro", "de", "segmento"],
    standard.isUnknownAcronym w = false := by
  decide

end Registry

namespace Mentions

open Registry Reading

variable {code : String} {banks : List String}

/-- Without a word that asks to compare, a reading that is left without banks is a ranking, as the
earlier question was. -/
theorem merge_mode_of_banks {r : Registry} {m : Mentions} {p : Question} (hp : p.IsCoherent r)
    (hcue : m.comparisonCue = false) (hb : (m.merge r (some p)).banks = []) :
    (m.merge r (some p)).mode = .ranking := by
  have hm : m.banks = [] := by
    by_contra hne
    exact mergedBanks_ne_nil hne (some p) hb
  have hpb : p.banks = [] := by
    simpa [merge, mergedBanks, hm] using hb
  have hranking := hp.mode_eq_ranking hpb
  have hmerged : m.mergedBanks (some p) = [] := hb
  by_cases hcues : (m.rankingCue || m.topN.isSome) = true
  · simp only [merge, mode, hcues, if_true]
  · simp [merge, mode, hcues, hcue, hmerged, hranking]

section WithoutFilters

variable (threshold : Float) (anchor : Anchor) (hcode : code ∈ standard.metricCodes)
  (hs : isSegmented standard code = false)

include hcode hs

theorem metric_withoutFilters (banks : List String) :
    (of standard threshold anchor (withoutFilters code banks)).metric = some ⟨code, 1⟩ := by
  obtain ⟨-, w, hw, hwords, honly⟩ := standard_unsegmented code hcode hs
  exact metric_of_keyword (isKeyword_standard w hw) honly
    (by rw [words_withoutFilters, hwords]; rfl)

variable (hbanks : ∀ b ∈ banks, b ∈ standard.bankIds)

include hbanks

theorem words_withoutFilters_subset :
    Text.words (withoutFilters code banks) ⊆ unfilteredWords := by
  obtain ⟨-, w, hw, hwords, -⟩ := standard_unsegmented code hcode hs
  intro v hv
  rw [words_withoutFilters, hwords] at hv
  rcases List.mem_append.mp hv with hv | hv
  · exact List.mem_append_left _ (List.mem_singleton.mp hv ▸ hw)
  refine List.mem_append_right _ ?_
  rcases List.mem_cons.mp hv with rfl | hv
  · exact List.mem_cons_self
  refine List.mem_cons_of_mem _ ?_
  rcases List.mem_append.mp hv with hv | hv
  · obtain ⟨b, hb, hv⟩ := List.mem_flatMap.mp hv
    exact List.mem_append_left _ (List.mem_flatMap.mpr ⟨b, hbanks b hb, hv⟩)
  · exact List.mem_append_right _ hv

theorem filters_withoutFilters :
    (of standard threshold anchor (withoutFilters code banks)).filters = [] := by
  refine filters_of_absent fun a ha => ?_
  obtain ⟨w, hw, hn⟩ := unfilteredWords_quiet.1 a ha
  exact ⟨w, hw, fun hm => hn (words_withoutFilters_subset hcode hs hbanks hm)⟩

theorem comparisonCue_withoutFilters :
    (of standard threshold anchor (withoutFilters code banks)).comparisonCue = false := by
  rw [comparisonCue_of, List.any_eq_false]
  intro w hw
  have hn := unfilteredWords_quiet.2 w (words_withoutFilters_subset hcode hs hbanks hw)
  simpa using hn

theorem unknownAcronym_withoutFilters :
    standard.unknownAcronym? (withoutFilters code banks) = none := by
  obtain ⟨hraw, w, -, hwords, -⟩ := standard_unsegmented code hcode hs
  obtain ⟨m, hm, rfl⟩ := List.mem_map.mp hcode
  rw [unknownAcronym?, List.find?_eq_none, rawWords_withoutFilters, hraw]
  intro v hv
  rw [Bool.not_eq_true]
  rcases List.mem_append.mp hv with hv | hv
  · rw [List.mem_singleton.mp hv]
    have hne : Text.words m.code ≠ [] := by
      rw [hwords]
      exact List.cons_ne_nil _ _
    exact isUnknownAcronym_of_named (.inr (namedIn_ne_none hm List.mem_cons_self hne))
  rcases List.mem_cons.mp hv with rfl | hv
  · exact isUnknownAcronym_small "de" (by simp)
  rcases List.mem_append.mp hv with hv | hv
  · obtain ⟨id, hid, hv⟩ := List.mem_flatMap.mp hv
    obtain ⟨b, hb, rfl⟩ := List.mem_map.mp (hbanks id hid)
    obtain ⟨-, hraw, hne⟩ := standardBanks_words b hb
    rw [hraw, List.mem_singleton] at hv
    exact hv ▸ isUnknownAcronym_of_named (.inl (namedIn_ne_none hb List.mem_cons_self hne))
  · exact isUnknownAcronym_small v hv

end WithoutFilters

end Mentions

namespace Question

open Registry Reading

variable {r : Registry} {options : ReaderOptions} {anchor : Anchor} {prior : Option Question}
  {text reason : String} {offered : List String} {ask : Ask}

theorem lacks_of_read (hmetrics : r.metrics ≠ []) (hbanks : r.banks ≠ [])
    (h : read r options anchor prior text = .ok (.clarification reason offered)) :
    (Text.normalize text = "" ∧ reason = Ask.text.reason ∧ offered = examples) ∨
      ∃ ask : Ask, reason = ask.reason ∧
        ((Mentions.of r options.threshold anchor text).merge r prior).Lacks r ask offered := by
  by_cases hn : Text.normalize text = ""
  · unfold read at h
    rw [if_pos hn] at h
    cases h
    exact .inl ⟨hn, rfl, rfl⟩
  · rw [read_eq hn] at h
    generalize Mentions.of r options.threshold anchor text = m at h ⊢
    unfold Mentions.outcome at h
    split at h
    · cases h
    · exact .inr (lacks_of_conclude hmetrics hbanks h)

/-- When the same is asked for after a text that has a word, the reading lacks it. -/
theorem lacks_of_read_reason (hmetrics : r.metrics ≠ []) (hbanks : r.banks ≠ [])
    (hne : Text.words text ≠ [])
    (h : read r options anchor prior text = .ok (.clarification ask.reason offered)) :
    ((Mentions.of r options.threshold anchor text).merge r prior).Lacks r ask offered := by
  rcases lacks_of_read hmetrics hbanks h with ⟨hn, -⟩ | ⟨ask', hr, hl⟩
  · exact absurd hn (Text.normalize_ne_of_words hne)
  · rw [Ask.reason_injective hr]
    exact hl

section WithoutFilters

variable {code : String} {banks : List String} (hcode : code ∈ standard.metricCodes)
  (hs : isSegmented standard code = false) (hbanks : ∀ b ∈ banks, b ∈ standard.bankIds)

include hcode hs hbanks

/-- The option names no filter, so filters that are in the way again are those of before. -/
theorem filters_of_read_withoutFilters
    (h : read standard options anchor prior (withoutFilters code banks) =
      .ok (.clarification (Ask.unfiltered code).reason offered)) :
    ∃ p, prior = some p ∧ p.filters ≠ [] := by
  have hfilters := Mentions.filters_withoutFilters options.threshold anchor hcode hs hbanks
  have hl := lacks_of_read_reason (by decide) (by decide) words_withoutFilters_ne_nil h
  generalize Mentions.of standard options.threshold anchor (withoutFilters code banks) = m
    at hfilters hl
  cases hl with
  | unfiltered _ hf _ =>
    cases prior with
    | none => exact absurd hfilters hf
    | some p => exact ⟨p, rfl, by simpa [Mentions.merge, hfilters] using hf⟩

theorem read_withoutFilters {p : Question} (hp : p.IsCoherent standard) (hf : p.filters ≠ [])
    (options : ReaderOptions) (anchor : Anchor) :
    ∃ again, read standard options anchor (some p) (withoutFilters code banks) =
      .ok (.clarification (Ask.unfiltered code).reason again) := by
  have hmetric := Mentions.metric_withoutFilters options.threshold anchor hcode hs banks
  have hfilters := Mentions.filters_withoutFilters options.threshold anchor hcode hs hbanks
  have hcue := Mentions.comparisonCue_withoutFilters options.threshold anchor hcode hs hbanks
  have hacronym := Mentions.unknownAcronym_withoutFilters hcode hs hbanks
  rw [read_eq (Text.normalize_ne_of_words words_withoutFilters_ne_nil)]
  generalize Mentions.of standard options.threshold anchor (withoutFilters code banks) = m
    at hmetric hfilters hcue ⊢
  have hserved : unserved? standard m (withoutFilters code banks) = none :=
    unserved?_eq_none_iff.mpr
      ⟨fun hm => absurd (hmetric.symm.trans hm) (Option.some_ne_none _), fun _ => hacronym⟩
  have hcode' : (m.merge standard (some p)).metric = some code := by
    simp [Mentions.merge, hmetric]
  have hcarried : (m.merge standard (some p)).filters ≠ [] := by
    simpa [Mentions.merge, hfilters] using hf
  rw [Mentions.outcome_some hserved]
  exact ⟨_, conclude_of_unfiltered hcode' (Mentions.merge_mode_of_banks hp hcue) hcarried hs⟩

end WithoutFilters

section Cured

variable {o : String} {again : List String}

theorem read_ne_of_words (hmetrics : r.metrics ≠ []) (hbanks : r.banks ≠ [])
    (ho : Text.words o ≠ []) :
    read r options anchor prior o ≠ .ok (.clarification Ask.text.reason again) := by
  intro h
  cases lacks_of_read_reason hmetrics hbanks ho h

theorem read_ne_of_keyword (ha : ask = .subject ∨ ask = .metric)
    (ho : ∃ w ∈ standardKeywords, w ∈ Text.words o) :
    read standard options anchor prior o ≠ .ok (.clarification ask.reason again) := by
  intro h
  obtain ⟨w, hw, hwo⟩ := ho
  have hl := lacks_of_read_reason (by decide) (by decide) (List.ne_nil_of_mem hwo) h
  have hmetric := Mentions.metric_ne_none options.threshold anchor (isKeyword_standard w hw) hwo
  have hnone : ((Mentions.of standard options.threshold anchor o).merge standard prior).metric =
      none := by
    rcases ha with rfl | rfl
    · cases hl with
      | subject hm => exact hm
    · cases hl with
      | metric hm => exact hm
  simp [Mentions.merge, hmetric] at hnone

theorem read_ne_of_bank {code : String} {b : Bank} (hb : b ∈ standard.banks) :
    read standard options anchor prior (code ++ " de " ++ b.displayName) ≠
      .ok (.clarification Ask.bank.reason again) := by
  have hde : " de " = " " ++ "de" ++ " " := by decide
  have hne := (standardBanks_words b hb).1
  have hwords : Text.words (code ++ " de " ++ b.displayName) =
      Text.words code ++ Text.words "de" ++ (Text.words b.displayName ++ []) := by
    rw [hde, ← String.append_assoc, ← String.append_assoc,
      Text.words_append (by decide) (by decide), Text.words_append (by decide) (by decide),
      List.append_nil]
  have hform : b.displayName ∈ b.surfaceForms := List.mem_cons_of_mem _ List.mem_cons_self
  have hbanks := Mentions.banks_ne_nil options.threshold anchor hb hform hne hwords
  intro h
  have hl := lacks_of_read_reason (by decide) (by decide) (by simp [hwords, hne]) h
  cases hl with
  | bank _ hb => exact Mentions.mergedBanks_ne_nil hbanks prior hb

/-- An option that names what a reading lacks, and is not about filters, supplies it. -/
theorem cured_of_lacks {reading : Reading} (hl : reading.Lacks standard ask offered)
    (hask : ∀ code, ask ≠ .unfiltered code) : offered ≠ [] ∧ ∀ o ∈ offered, ∀ again,
      read standard options anchor prior o ≠ .ok (.clarification ask.reason again) := by
  cases hl with
  | subject _ =>
    refine ⟨by decide, fun o ho again => ?_⟩
    exact read_ne_of_keyword (.inl rfl) (examples_keyword o (List.mem_append_left _ ho))
  | metric _ =>
    refine ⟨by decide, fun o ho again => ?_⟩
    obtain ⟨m, hm, rfl⟩ := List.mem_map.mp ho
    obtain ⟨w, hw, hwm⟩ :=
      examples_keyword m.code (List.mem_append_right _ (List.mem_map_of_mem hm))
    refine read_ne_of_keyword (.inr rfl) ⟨w, hw, ?_⟩
    rw [String.append_assoc, Text.words_append (by decide) (by decide)]
    exact List.mem_append_left _ hwm
  | bank _ _ =>
    have hbanks : standard.banks ≠ [] := by decide
    refine ⟨by simpa using hbanks, fun o ho again => ?_⟩
    obtain ⟨b, hb, rfl⟩ := List.mem_map.mp ho
    exact read_ne_of_bank hb
  | @unfiltered code _ _ _ => exact absurd rfl (hask code)

end Cured

/-- Whenever the standard registry asks to clarify, it offers at least one option, and an option is
answered with the same request if and only if it is the one to leave filters out and the filters are
those of the earlier question. -/
theorem read_offered (options : ReaderOptions) (anchor : Anchor) (prior : Option Question)
    (hp : ∀ p, prior = some p → Reached standard p) (text reason : String) (offered : List String)
    (h : read standard options anchor prior text = .ok (.clarification reason offered)) :
    offered ≠ [] ∧ ∀ o ∈ offered,
      ((∃ again, read standard options anchor prior o = .ok (.clarification reason again)) ↔
        (∃ code, reason = (Ask.unfiltered code).reason) ∧
          ∃ p, prior = some p ∧ p.filters ≠ []) := by
  have hmetrics : standard.metrics ≠ [] := by decide
  have hbanks : standard.banks ≠ [] := by decide
  -- a request that is not about filters is not made again, and its reason is not theirs
  have hcured {ask : Ask} {o : String} (hask : ∀ code, ask ≠ .unfiltered code)
      (ho : ∀ again, read standard options anchor prior o ≠
        .ok (.clarification ask.reason again)) :
      (∃ again, read standard options anchor prior o = .ok (.clarification ask.reason again)) ↔
        (∃ code, ask.reason = (Ask.unfiltered code).reason) ∧
          ∃ p, prior = some p ∧ p.filters ≠ [] :=
    iff_of_false (fun ⟨again, ha⟩ => ho again ha)
      fun ⟨⟨code, hr⟩, _⟩ => hask code (Ask.reason_injective hr)
  rcases lacks_of_read hmetrics hbanks h with ⟨-, rfl, rfl⟩ | ⟨ask, rfl, hl⟩
  · refine ⟨by decide, fun o ho => hcured (by simp) fun again => ?_⟩
    obtain ⟨w, -, hw⟩ := examples_keyword o (List.mem_append_left _ ho)
    exact read_ne_of_words hmetrics hbanks (List.ne_nil_of_mem hw)
  by_cases hask : ∀ code, ask ≠ .unfiltered code
  · obtain ⟨hne, ho⟩ := cured_of_lacks hl hask
    exact ⟨hne, fun o hmem => hcured hask (ho o hmem)⟩
  obtain ⟨code, rfl⟩ := by simpa using hask
  cases hl with
  | unfiltered hm _ hs =>
    have hc : ∀ p, prior = some p → p.IsCoherent standard := fun p he =>
      (hp p he).isCoherent nodup_standardBankIds
    have hk := Mentions.isKnown_of nodup_standardBankIds options.threshold anchor text
    have hcode := Mentions.code_mem_of_merge hk hc hm
    have hsub : ∀ b ∈ ((Mentions.of standard options.threshold anchor text).merge standard
        prior).banks, b ∈ standard.bankIds := Mentions.mergedBanks_subset hk hc
    refine ⟨List.cons_ne_nil _ _, fun o ho => ?_⟩
    rw [List.mem_singleton.mp ho]
    constructor
    · rintro ⟨again, ha⟩
      exact ⟨⟨code, rfl⟩, filters_of_read_withoutFilters hcode hs hsub ha⟩
    · rintro ⟨-, p, rfl, hpf⟩
      exact read_withoutFilters hcode hs hsub (hc p rfl) hpf options anchor

def requestOf? : Except Failure Outcome → Option (String × List String)
  | .ok (.clarification reason offered) => some (reason, offered)
  | _ => none

theorem eq_clarification_of_requestOf? {x : Except Failure Outcome}
    (h : requestOf? x = some (reason, offered)) : x = .ok (.clarification reason offered) := by
  unfold requestOf? at h
  split at h
  · cases h
    rfl
  · cases h

def carLoans : Question where
  metric := some "IMOR"
  banks := ["BBVA"]
  range := DateRange.trailing midMonth.latest 12
  filters := ["automotriz"]
  mode := .single

theorem reached_carLoans : Reached standard carLoans := by
  have hb : standard.banksIn (Token.ofText "imor automotriz de bbva") = (["BBVA"],
      [⟨"imor", false⟩, ⟨"automotriz", false⟩, ⟨"de", false⟩, ⟨"bbva", true⟩]) := by
    rw [banksIn_eq, standard_bankAliases]
    decide
  have hs : Alias.scan standard.metricAliases
      [⟨"imor", false⟩, ⟨"automotriz", false⟩, ⟨"de", false⟩, ⟨"bbva", true⟩] = ([0],
        [⟨"imor", true⟩, ⟨"automotriz", false⟩, ⟨"de", false⟩, ⟨"bbva", true⟩]) := by
    rw [standard_metricAliases]
    decide
  have hf : standard.filtersIn
      [⟨"imor", true⟩, ⟨"automotriz", false⟩, ⟨"de", false⟩, ⟨"bbva", true⟩] = (["automotriz"],
        [⟨"imor", true⟩, ⟨"automotriz", true⟩, ⟨"de", false⟩, ⟨"bbva", true⟩]) := by
    rw [filtersIn_eq, standard_filterAliases]
    decide
  have hq : questionOf? (read standard {} midMonth none "IMOR automotriz de BBVA") =
      some carLoans := by
    rw [read_eq (by decide), Mentions.of_eq_aliased (by decide +kernel) hb hs rfl hf]
    decide
  exact .of_questionOf? hq

theorem read_icap : read standard {} midMonth (some carLoans) "ICAP de BBVA" =
    .ok (.clarification (Ask.unfiltered "ICAP").reason
      ["ICAP de BBVA sin filtro de segmento"]) := by
  have hb : standard.banksIn (Token.ofText "icap de bbva") = (["BBVA"],
      [⟨"icap", false⟩, ⟨"de", false⟩, ⟨"bbva", true⟩]) := by
    rw [banksIn_eq, standard_bankAliases]
    decide
  have hs : Alias.scan standard.metricAliases [⟨"icap", false⟩, ⟨"de", false⟩, ⟨"bbva", true⟩] =
      ([2], [⟨"icap", true⟩, ⟨"de", false⟩, ⟨"bbva", true⟩]) := by
    rw [standard_metricAliases]
    decide
  have hf : standard.filtersIn [⟨"icap", true⟩, ⟨"de", false⟩, ⟨"bbva", true⟩] =
      ([], [⟨"icap", true⟩, ⟨"de", false⟩, ⟨"bbva", true⟩]) := by
    rw [filtersIn_eq, standard_filterAliases]
    decide
  refine eq_clarification_of_requestOf? ?_
  rw [read_eq (by decide), Mentions.of_eq_aliased (by decide +kernel) hb hs rfl hf]
  decide

theorem hasPrior_carLoans : ∀ p, some carLoans = some p → Reached standard p := by
  rintro p ⟨⟩
  exact reached_carLoans

theorem read_offered_icap :
    (∀ p, some carLoans = some p → Reached standard p) ∧
    read standard {} midMonth (some carLoans) "ICAP de BBVA" =
      .ok (.clarification (Ask.unfiltered "ICAP").reason
        ["ICAP de BBVA sin filtro de segmento"]) ∧
    ["ICAP de BBVA sin filtro de segmento"] ≠ [] ∧
    ∀ o ∈ ["ICAP de BBVA sin filtro de segmento"],
      ((∃ again, read standard {} midMonth (some carLoans) o =
          .ok (.clarification (Ask.unfiltered "ICAP").reason again)) ↔
        (∃ code, (Ask.unfiltered "ICAP").reason = (Ask.unfiltered code).reason) ∧
          ∃ p, some carLoans = some p ∧ p.filters ≠ []) :=
  ⟨hasPrior_carLoans, read_icap, read_offered {} midMonth (some carLoans) hasPrior_carLoans
    "ICAP de BBVA" _ _ read_icap⟩

/-- The option to leave the filters out is answered with the request it comes from. -/
theorem read_offers_again : ¬ ∀ (options : ReaderOptions) (anchor : Anchor)
    (prior : Option Question), (∀ p, prior = some p → Reached standard p) →
    ∀ (text reason : String) (offered : List String),
    read standard options anchor prior text = .ok (.clarification reason offered) →
    offered ≠ [] ∧ ∀ o ∈ offered, ∀ again,
      read standard options anchor prior o ≠ .ok (.clarification reason again) := by
  intro hall
  have hoption : withoutFilters "ICAP" ["BBVA"] = "ICAP de BBVA sin filtro de segmento" := by
    decide
  have hcode : "ICAP" ∈ standard.metricCodes := by decide
  have hbanks : ∀ b ∈ ["BBVA"], b ∈ standard.bankIds := by decide
  obtain ⟨again, ha⟩ := read_withoutFilters hcode (by decide) hbanks
    (reached_carLoans.isCoherent nodup_standardBankIds) (by decide) {} midMonth
  rw [hoption] at ha
  exact (hall {} midMonth (some carLoans) hasPrior_carLoans "ICAP de BBVA" _ _ read_icap).2 _
    List.mem_cons_self again ha

end Question

end BankQuery
