import Mathlib.Algebra.Group.Nat.Defs
import Mathlib.Data.List.Nodup
import BankQuery.Proofs.Calendar.Range
import BankQuery.Proofs.Calendar.Text
import BankQuery.Proofs.Registry.Consistency
import BankQuery.Proofs.Text.Match
import BankQuery.Question.Reading

/-!
# Questions of a conversation

What a text names is known to the registry, and what a turn takes over from the turn before was known
there. So every question of a conversation is coherent: `Question.coherent_of_read` says that a turn
keeps this, `Question.coherent_of_converse` that a conversation of any length has it.
-/

namespace BankQuery

namespace Cues

/-- The number of places asked for has one to three digits and is not zero. -/
theorem topN?_mem {normal : String} {n : UInt32} (h : topN? normal = some n) :
    1 ≤ n.toNat ∧ n.toNat ≤ 999 := by
  simp only [topN?, Option.bind_eq_bind, Option.bind_eq_some_iff] at h
  obtain ⟨m, hm, piece, hp, places, hd, h⟩ := h
  have hlen : piece.length ≤ 3 :=
    Text.Pattern.length_le_of_piece? hm (by decide +kernel) hp
  have hlt : places < 1000 := by
    unfold Phrase.decimal? at hd
    split at hd
    · rename_i hdigits
      cases hd
      rw [Bool.and_eq_true] at hdigits
      calc Date.digitsToNat piece.toList < 10 ^ piece.toList.length :=
            Date.digitsToNat_lt hdigits.2
        _ ≤ 10 ^ 3 := Nat.pow_le_pow_right (by omega) (String.length_toList ▸ hlen)
    · cases hd
  split at h
  · cases h
  · cases h
    rw [UInt32.toNat_ofNat', Nat.mod_eq_of_lt (by omega)]
    omega

end Cues

theorem nodup_eraseDups {α : Type} [BEq α] [LawfulBEq α] (xs : List α) : xs.eraseDups.Nodup := by
  induction hn : xs.length using Nat.strongRecOn generalizing xs with
  | _ n ih =>
    cases xs with
    | nil => simp
    | cons x xs =>
      rw [List.eraseDups_cons, List.nodup_cons]
      refine ⟨by simp [List.mem_eraseDups], ih _ ?_ _ rfl⟩
      have := List.length_filter_le (fun y => !y == x) xs
      simp only [List.length_cons] at hn
      omega

theorem Alias.nodup_scan (aliases : List Alias) (text : List Token) :
    (scan aliases text).1.Nodup :=
  nodup_eraseDups _

namespace Registry

theorem nodup_banksIn {r : Registry} (h : r.bankIds.Nodup) (text : List Token) :
    (r.banksIn text).1.Nodup := by
  refine List.Nodup.filterMap (fun i j id hi hj => ?_) (Alias.nodup_scan r.bankAliases text)
  simp only [← List.getElem?_map, Option.mem_def] at hi hj
  obtain ⟨hlt, -⟩ := List.getElem?_eq_some_iff.mp hi
  exact (List.getElem?_inj hlt h).mp (hi.trans hj.symm)

theorem mem_bankIds_of_banksIn {r : Registry} (text : List Token) :
    ∀ b ∈ (r.banksIn text).1, b ∈ r.bankIds := by
  intro b hb
  obtain ⟨i, -, hi⟩ := List.mem_filterMap.mp hb
  rw [← List.getElem?_map] at hi
  exact List.mem_of_getElem? hi

def filterIds (r : Registry) : List String := r.filters.map SegmentFilter.id

theorem mem_filterIds_of_filtersIn {r : Registry} {text : List Token} :
    ∀ f ∈ (r.filtersIn text).1, f ∈ r.filterIds := by
  intro f hf
  obtain ⟨i, -, hi⟩ := List.mem_filterMap.mp hf
  rw [← List.getElem?_map] at hi
  exact List.mem_of_getElem? hi

end Registry

namespace Text.Matcher

variable {α : Type} {m : Matcher} {target : String} {a : α} {score : Float}

theorem step_eq_some {found : Option (α × Float)} {c : α × String}
    (h : m.step target found c = some (a, score)) : found = some (a, score) ∨ a = c.1 := by
  unfold step at h
  dsimp only at h
  split at h
  · exact .inl h
  · unfold better at h
    split at h
    · split at h
      · exact .inl h
      · cases h
        exact .inr rfl
    · cases h
      exact .inr rfl

theorem foldl_step_eq_some {found : Option (α × Float)} {cs : List (α × String)}
    (h : cs.foldl (m.step target) found = some (a, score)) :
    found = some (a, score) ∨ a ∈ cs.map Prod.fst := by
  induction cs generalizing found with
  | nil => exact .inl h
  | cons c cs ih =>
    rcases ih h with h | h
    · rcases step_eq_some h with h | rfl
      · exact .inl h
      · exact .inr List.mem_cons_self
    · exact .inr (List.mem_cons_of_mem _ h)

theorem mem_of_best? {candidates : List (α × String)}
    (h : m.best? target candidates = some (a, score)) : a ∈ candidates.map Prod.fst := by
  unfold best? at h
  split at h
  · cases h
  · rcases foldl_step_eq_some h with h | h
    · cases h
    · exact h

end Text.Matcher

namespace Registry

theorem mem_forms_of_bestWord {m : Text.Matcher} {forms : List (String × String)} {text : List Token}
    {i j : Nat} {best : Option (Nat × MetricMention)} {mention : MetricMention}
    (h : bestWord m forms i best text = some (j, mention)) :
    best = some (j, mention) ∨ mention.code ∈ forms.map Prod.fst := by
  induction text generalizing i best with
  | nil => exact .inl h
  | cons t rest ih =>
    have hfound : ∀ code score, (if mayBeMetric t then m.best? t.word forms else none) =
        some (code, score) → code ∈ forms.map Prod.fst := by
      intro code score hf
      split at hf
      · exact Text.Matcher.mem_of_best? hf
      · cases hf
    unfold bestWord at h
    dsimp only at h
    generalize (if mayBeMetric t then m.best? t.word forms else none) = found at h hfound
    rcases ih h with h | h
    · split at h
      · split at h
        · cases h
          exact .inr (hfound _ _ rfl)
        · exact .inl h
      · cases h
        exact .inr (hfound _ _ rfl)
      · exact .inl h
    · exact .inr h

theorem mem_metricCodes_of_metricIn {r : Registry} {threshold : Float} {text : List Token}
    {mention : MetricMention} (h : (r.metricIn threshold text).1 = some mention) :
    mention.code ∈ r.metricCodes := by
  unfold metricIn at h
  dsimp only at h
  split at h
  · rename_i m hm
    cases h
    obtain ⟨i, -, hi⟩ := Option.bind_eq_some_iff.mp hm
    exact List.mem_map_of_mem (List.mem_of_getElem? hi)
  · split at h
    · rename_i i mention' hb
      split at h
      · cases h
        rcases mem_forms_of_bestWord hb with hb | hb
        · cases hb
        · simp only [metricForms, List.mem_map, List.mem_flatMap] at hb
          obtain ⟨form, ⟨m, hm, form', -, rfl⟩, hcode⟩ := hb
          exact hcode ▸ List.mem_map_of_mem hm
      · cases h
    · cases h

end Registry

structure Mentions.IsKnown (r : Registry) (m : Mentions) : Prop where
  metric : ∀ mention, m.metric = some mention → mention.code ∈ r.metricCodes
  banks : ∀ b ∈ m.banks, b ∈ r.bankIds
  nodup : m.banks.Nodup
  filters : ∀ f ∈ m.filters, f ∈ r.filterIds
  range : m.period.range.IsMonthly
  topN : ∀ n, m.topN = some n → 1 ≤ n.toNat ∧ n.toNat ≤ 999

theorem Mentions.isKnown_of {r : Registry} (h : r.bankIds.Nodup) (threshold : Float)
    (anchor : Anchor) (text : String) : (Mentions.of r threshold anchor text).IsKnown r := by
  have hbanks := Registry.mem_bankIds_of_banksIn (r := r) (Token.ofText (Text.normalize text))
  have hnodup := Registry.nodup_banksIn h (Token.ofText (Text.normalize text))
  unfold Mentions.of
  dsimp only
  generalize r.banksIn (Token.ofText (Text.normalize text)) = banks at hbanks hnodup
  have hmetric : ∀ mention, (r.metricIn threshold banks.2).1 = some mention →
      mention.code ∈ r.metricCodes := fun _ hm => Registry.mem_metricCodes_of_metricIn hm
  generalize r.metricIn threshold banks.2 = metric at hmetric
  exact ⟨hmetric, hbanks, hnodup, Registry.mem_filterIds_of_filtersIn,
    Phrase.isMonthly_resolve anchor _, fun _ hn => Cues.topN?_mem hn⟩

/-- A question that can be answered from the registry, whose parts fit together. -/
structure Question.IsCoherent (r : Registry) (q : Question) : Prop where
  executable : q.isExecutable = true
  metric : ∃ code ∈ r.metricCodes, q.metric = some code
  banks : ∀ b ∈ q.banks, b ∈ r.bankIds
  nodup : q.banks.Nodup
  filters : ∀ f ∈ q.filters, f ∈ r.filterIds
  segmented : q.filters ≠ [] →
    ∃ m, q.metric.bind r.metric? = some m ∧ m.segmented = true
  range : q.range.IsMonthly
  single : q.mode = .single → ∃ b, q.banks = [b]
  unranked : q.mode ≠ .ranking → q.topN = none
  topN : ∀ n, q.topN = some n → 1 ≤ n.toNat ∧ n.toNat ≤ 999

namespace Mentions

theorem mem_union {earlier banks : List String} {b : String} :
    b ∈ union earlier banks ↔ b ∈ earlier ∨ b ∈ banks := by
  induction banks generalizing earlier with
  | nil => simp [union]
  | cons c rest ih =>
    unfold union
    rw [ih]
    split
    · rename_i hc
      constructor
      · rintro (h | h)
        · exact .inl h
        · exact .inr (List.mem_cons_of_mem c h)
      · rintro (h | h)
        · exact .inl h
        · rcases List.mem_cons.mp h with rfl | h
          · exact .inl hc
          · exact .inr h
    · simp only [List.mem_append, List.mem_cons, List.not_mem_nil, or_false, or_assoc]

theorem nodup_union {earlier : List String} (h : earlier.Nodup) (banks : List String) :
    (union earlier banks).Nodup := by
  induction banks generalizing earlier with
  | nil => exact h
  | cons b rest ih =>
    unfold union
    split
    · exact ih h
    · rename_i hb
      exact ih (List.nodup_append.mpr ⟨h, by simp, by rintro x hx y hy rfl; simp_all⟩)

variable {r : Registry} {m : Mentions} {prior : Option Question}

theorem mergedBanks_subset (hm : m.IsKnown r) (hp : ∀ p, prior = some p → p.IsCoherent r) :
    ∀ b ∈ m.mergedBanks prior, b ∈ r.bankIds := by
  intro b hb
  unfold mergedBanks at hb
  split at hb
  · rename_i p
    have hc := hp p rfl
    split at hb
    · exact hc.banks b hb
    · split at hb
      · rcases mem_union.mp hb with hb | hb
        · exact hc.banks b hb
        · exact hm.banks b hb
      · exact hm.banks b hb
  · exact hm.banks b hb

theorem nodup_mergedBanks (hm : m.IsKnown r) (hp : ∀ p, prior = some p → p.IsCoherent r) :
    (m.mergedBanks prior).Nodup := by
  unfold mergedBanks
  split
  · rename_i p
    have hc := hp p rfl
    split
    · exact hc.nodup
    · split
      · exact nodup_union hc.nodup m.banks
      · exact hm.nodup
  · exact hm.nodup

/-- A single series is asked for only where fewer than two banks are left and no number of places
is given. -/
theorem of_mode_eq_single {banks : List String} (h : m.mode prior banks = .single) :
    banks.length < 2 ∧ m.topN = none := by
  unfold mode at h
  split at h
  · cases h
  · rename_i hr
    split at h
    · cases h
    · rename_i hc
      simp only [Bool.or_eq_true, Option.isSome_iff_ne_none, ne_eq, decide_eq_true_eq, not_or,
        not_not, Nat.not_le] at hr hc
      exact ⟨hc.2, hr.2⟩

theorem code_mem_of_merge (hm : m.IsKnown r) (hp : ∀ p, prior = some p → p.IsCoherent r)
    {code : String} (h : (m.merge r prior).metric = some code) : code ∈ r.metricCodes := by
  rcases Option.or_eq_some_iff.mp h with h | ⟨-, h⟩
  · obtain ⟨mention, hmention, rfl⟩ := Option.map_eq_some_iff.mp h
    exact hm.metric mention hmention
  · obtain ⟨p, rfl, h⟩ := Option.bind_eq_some_iff.mp h
    obtain ⟨code', hmem, hcode⟩ := (hp p rfl).metric
    exact Option.some.inj (hcode.symm.trans h) ▸ hmem

end Mentions

namespace Reading

variable {r : Registry} {m : Mentions} {reading : Reading} {text : String} {q : Question}
  {confidence : Confidence}

theorem withoutMetric_ne_resolved :
    withoutMetric r m text ≠ .ok (.resolved q confidence) := by
  unfold withoutMetric
  split <;> simp [clarify]

theorem withoutBank_ne_resolved {metric : String} :
    withoutBank r metric text ≠ .ok (.resolved q confidence) := by
  unfold withoutBank
  split <;> simp [clarify]

/-- When a reading is concluded with a question, and with which. -/
theorem of_conclude (h : conclude r m reading text = .ok (.resolved q confidence)) :
    ∃ metric, reading.metric = some metric ∧
      (reading.banks = [] → reading.mode = .ranking) ∧
      (reading.filters ≠ [] → isSegmented r metric = true) ∧
      q = { metric := some metric, banks := reading.banks, range := reading.range,
            filters := reading.filters, mode := reading.mode,
            topN := if reading.mode = .ranking then m.topN else none, order := reading.order } := by
  unfold conclude at h
  split at h
  · simp [clarify] at h
  · split at h
    · exact absurd h withoutMetric_ne_resolved
    · rename_i metric hmetric
      split at h
      · exact absurd h withoutBank_ne_resolved
      · rename_i hbanks
        split at h
        · simp [clarify] at h
        · rename_i hfilters
          simp only [Except.ok.injEq, resolved, Outcome.resolved.injEq] at h
          refine ⟨metric, hmetric, fun hb => ?_, fun hf => ?_, h.1.symm⟩
          · simpa [hb] using hbanks
          · simpa [hf] using hfilters

end Reading

theorem Reading.exists_of_isSegmented {r : Registry} {code : String}
    (h : isSegmented r code = true) : ∃ m, r.metric? code = some m ∧ m.segmented = true := by
  unfold isSegmented at h
  cases hm : r.metric? code with
  | none => simp [hm] at h
  | some m => exact ⟨m, rfl, by simpa [hm] using h⟩

namespace Question

variable {r : Registry} {options : ReaderOptions} {anchor : Anchor} {prior : Option Question}
  {text : String} {q : Question} {confidence : Confidence}

theorem isCoherent_of_conclude {m : Mentions} (hm : m.IsKnown r)
    (hp : ∀ p, prior = some p → p.IsCoherent r)
    (h : Reading.conclude r m (m.merge r prior) text = .ok (.resolved q confidence)) :
    q.IsCoherent r := by
  obtain ⟨code, hcode, hbanks, hfilters, rfl⟩ := Reading.of_conclude h
  have hmode : (m.merge r prior).mode = m.mode prior (m.merge r prior).banks := rfl
  constructor
  case executable =>
    by_cases hb : (m.merge r prior).banks = []
    · simp [isExecutable, hbanks hb]
    · simp [isExecutable, hb]
  case metric => exact ⟨code, Mentions.code_mem_of_merge hm hp hcode, rfl⟩
  case banks => exact Mentions.mergedBanks_subset hm hp
  case nodup => exact Mentions.nodup_mergedBanks hm hp
  case filters =>
    cases prior with
    | none => exact hm.filters
    | some p =>
      intro f hf
      simp only [Mentions.merge] at hf
      split at hf
      · exact (hp p rfl).filters f hf
      · exact hm.filters f hf
  case segmented => exact fun hf => Reading.exists_of_isSegmented (hfilters hf)
  case range =>
    cases prior with
    | none => exact hm.range
    | some p =>
      simp only [Mentions.merge]
      split
      · exact hm.range
      · exact (hp p rfl).range
  case single =>
    intro hs
    change (m.merge r prior).mode = .single at hs
    have hlt := (Mentions.of_mode_eq_single (hmode.symm.trans hs)).1
    cases hb : (m.merge r prior).banks with
    | nil => cases hs.symm.trans (hbanks hb)
    | cons b rest =>
      rw [hb, List.length_cons] at hlt
      obtain rfl : rest = [] := List.eq_nil_of_length_eq_zero (by omega)
      exact ⟨b, rfl⟩
  case unranked => exact fun hr => if_neg hr
  case topN =>
    intro n hn
    dsimp only at hn
    split at hn
    · exact hm.topN n hn
    · cases hn

/-- One turn after a coherent question, or the first one, gives a coherent question if any. -/
theorem isCoherent_of_read (h : r.bankIds.Nodup) (hp : ∀ p, prior = some p → p.IsCoherent r)
    (hq : read r options anchor prior text = .ok (.resolved q confidence)) : q.IsCoherent r := by
  unfold read at hq
  split at hq
  · simp [Reading.clarify] at hq
  · dsimp only at hq
    split at hq
    · cases hq
    · exact isCoherent_of_conclude (Mentions.isKnown_of h options.threshold anchor text) hp hq

theorem isCoherent_of_converse_from (h : r.bankIds.Nodup) {texts : List String}
    (hp : ∀ p, prior = some p → p.IsCoherent r)
    (hq : .ok (.resolved q confidence) ∈ converse r options anchor prior texts) :
    q.IsCoherent r := by
  induction texts generalizing prior with
  | nil => cases hq
  | cons text rest ih =>
    have hread {q : Question} {confidence : Confidence}
        (hr : read r options anchor prior text = .ok (.resolved q confidence)) : q.IsCoherent r :=
      isCoherent_of_read h hp hr
    unfold converse at hq
    rcases List.mem_cons.mp hq with hq | hq
    · exact hread hq.symm
    · refine ih (fun p hnext => ?_) hq
      split at hnext
      · rename_i q' confidence' hr
        cases hnext
        exact hread hr
      · exact hp p hnext

/-- Every question of a conversation is coherent, however long the conversation is. -/
theorem isCoherent_of_converse (r : Registry) (h : r.check = .ok ()) (options : ReaderOptions)
    (anchor : Anchor) (texts : List String) (q : Question) (confidence : Confidence)
    (hq : .ok (.resolved q confidence) ∈ converse r options anchor none texts) :
    q.IsCoherent r :=
  isCoherent_of_converse_from (Registry.nodup_bankIds h) (fun _ hp => by cases hp) hq

def twoBanks : Registry where
  banks := [{ id := "NORTE", displayName := "Norte" }, { id := "SUR", displayName := "Sur" }]
  metrics := [{
    code := "MORA"
    displayName := "Mora"
    description := ""
    column := "mora"
    unit := .ratio }]
  schema.tables := [{
    name := "kpis"
    columns := [{ name := "mora", dataType := "double precision" }]
    timeColumn := "mes"
    bankColumn := "banco" }]
  schema.primaryTable := "kpis"

def twoBanksServed : Registry where
  banks := twoBanks.banks
  metrics := twoBanks.metrics
  schema.tables := [{
    name := "kpis"
    columns := [{ name := "mora", dataType := "double precision" },
      { name := "mes", dataType := "date" }, { name := "banco", dataType := "text" }]
    timeColumn := "mes"
    bankColumn := "banco" }]
  schema.primaryTable := "kpis"

def midMonth : Anchor where
  today := ⟨2025, 7, 15, by decide, by decide, by decide⟩
  latest := ⟨2025, 6, 1, by decide, by decide, by decide⟩

theorem isCoherent_of_converse_twoBanks : twoBanks.check = .ok () ∧
    ∃ q confidence, .ok (.resolved q confidence) ∈
        converse twoBanks {} midMonth none ["mora norte", "vs sur", "top 5"] ∧
      q.topN = some 5 ∧ q.IsCoherent twoBanks := by
  have hc : twoBanks.check = .ok () := by decide +kernel
  have ha : (converse twoBanks {} midMonth none ["mora norte", "vs sur", "top 5"]).any (fun o =>
      match o with
      | .ok (.resolved q _) => q.topN == some 5
      | .ok (.clarification _ _) | .error _ => false) = true := by decide +kernel
  refine ⟨hc, ?_⟩
  obtain ⟨o, ho, hn⟩ := List.any_eq_true.mp ha
  split at hn
  · rename_i q confidence
    exact ⟨q, confidence, ho, beq_iff_eq.mp hn, isCoherent_of_converse twoBanks hc {} midMonth _ q
      confidence ho⟩
  · cases hn
  · cases hn

end Question

end BankQuery
