import BankQuery.Proofs.Text.Words
import BankQuery.Question.Reading

/-!
# Aliases that a text holds

A scan takes words and changes none, so what a text names depends on its words: an alias with a word
that the text lacks is not found, and an alias that stands at the start of the text is found first.
-/

namespace BankQuery

namespace Alias

theorem formsFrom_eq (i : Nat) (entries : List (List String)) : formsFrom i entries =
    (entries.zipIdx i).flatMap fun e => e.1.map fun form => ⟨Text.words form, e.2⟩ := by
  induction entries generalizing i with
  | nil => rfl
  | cons forms rest ih =>
    rw [formsFrom, List.zipIdx_cons, List.flatMap_cons, ih]
    simp only [Text.tokens_normalize]

/-- The aliases are the surface forms that have a word, each with its entry. -/
theorem mem_index {α : Type} {entries : List α} {forms : α → List String} {a : Alias} :
    a ∈ index (entries.map forms) ↔ a.words ≠ [] ∧
      ∃ e, entries[a.entry]? = some e ∧ ∃ form ∈ forms e, Text.words form = a.words := by
  obtain ⟨ws, i⟩ := a
  rw [index, (sortBy_perm _ _).mem_iff, List.mem_filter, formsFrom_eq, and_comm]
  refine and_congr (by simp) ?_
  simp only [List.mem_flatMap, List.mem_map, Prod.exists, List.mem_zipIdx_iff_getElem?,
    List.getElem?_map, Option.map_eq_some_iff, Alias.mk.injEq]
  constructor
  · rintro ⟨_, _, ⟨e, he, rfl⟩, form, hform, hw, rfl⟩
    exact ⟨e, he, form, hform, hw⟩
  · rintro ⟨e, he, form, hform, hw⟩
    exact ⟨forms e, i, ⟨e, he, rfl⟩, form, hform, hw, rfl⟩

theorem words_ne_nil_of_index {entries : List (List String)} {a : Alias} (h : a ∈ index entries) :
    a.words ≠ [] := by
  rw [index, (sortBy_perm _ _).mem_iff, List.mem_filter] at h
  simpa using h.2

variable {aliases : List Alias} {a : Alias} {ws : List String} {w : String} {t : Token}
  {ts text : List Token}

theorem standsAt_append (ws : List String) (ts : List Token) :
    standsAt ws (ws.map (fun w => ⟨w, false⟩) ++ ts) = true := by
  induction ws with
  | nil => cases ts <;> rfl
  | cons w ws ih => simpa [standsAt] using ih

/-- The words over which an alias stands are its own. -/
theorem mem_of_standsAt (h : standsAt ws text = true) :
    (text.take ws.length).map Token.word = ws := by
  induction ws generalizing text with
  | nil => rw [List.length_nil, List.take_zero, List.map_nil]
  | cons w ws ih =>
    cases text with
    | nil => cases h
    | cons t ts =>
      rw [standsAt, Bool.and_eq_true, Bool.and_eq_true, beq_iff_eq] at h
      rw [List.length_cons, List.take_succ_cons, List.map_cons, h.1.1, ih h.2]

theorem head_of_standsAt (h : standsAt ws (t :: ts) = true) (hne : ws ≠ []) :
    ws.head? = some t.word := by
  rw [← mem_of_standsAt h]
  obtain ⟨w, ws, rfl⟩ := List.exists_cons_of_ne_nil hne
  rfl

def first? (aliases : List Alias) (text : List Token) : Option Alias :=
  aliases.find? fun a => standsAt a.words text

theorem of_first? (h : first? aliases text = some a) :
    a ∈ aliases ∧ standsAt a.words text = true :=
  ⟨List.mem_of_find?_eq_some h, List.find?_some (p := fun a : Alias => standsAt a.words text) h⟩

theorem first?_eq_none : first? aliases text = none ↔
    ∀ a ∈ aliases, standsAt a.words text = false := by
  simp [first?]

theorem scanFrom_nil (aliases : List Alias) (skip : Nat) : scanFrom aliases skip [] = ([], []) := by
  cases skip <;> rfl

theorem scanFrom_cons_of_none (h : first? aliases (t :: ts) = none) :
    scanFrom aliases 0 (t :: ts) =
      ((scanFrom aliases 0 ts).1, t :: (scanFrom aliases 0 ts).2) := by
  unfold first? at h
  rw [scanFrom, h]

theorem scanFrom_cons_of_some (h : first? aliases (t :: ts) = some a) :
    scanFrom aliases 0 (t :: ts) = (a :: (scanFrom aliases (a.words.length - 1) ts).1,
      { t with taken := true } :: (scanFrom aliases (a.words.length - 1) ts).2) := by
  unfold first? at h
  rw [scanFrom, h]

theorem map_word_scanFrom (aliases : List Alias) (skip : Nat) (text : List Token) :
    (scanFrom aliases skip text).2.map Token.word = text.map Token.word := by
  induction text generalizing skip with
  | nil => rw [scanFrom_nil]
  | cons t ts ih =>
    cases skip with
    | succ skip => rw [scanFrom, List.map_cons, List.map_cons, ih]
    | zero =>
      cases hf : first? aliases (t :: ts) with
      | some a => rw [scanFrom_cons_of_some hf, List.map_cons, List.map_cons, ih]
      | none => rw [scanFrom_cons_of_none hf, List.map_cons, List.map_cons, ih]

theorem map_word_scan (aliases : List Alias) (text : List Token) :
    (scan aliases text).2.map Token.word = text.map Token.word :=
  map_word_scanFrom aliases 0 text

theorem mem_of_scanFrom {skip : Nat} (h : a ∈ (scanFrom aliases skip text).1) : a ∈ aliases := by
  induction text generalizing skip with
  | nil => rw [scanFrom_nil] at h; cases h
  | cons t ts ih =>
    cases skip with
    | succ skip => exact ih h
    | zero =>
      cases hf : first? aliases (t :: ts) with
      | none =>
        rw [scanFrom_cons_of_none hf] at h
        exact ih h
      | some b =>
        rw [scanFrom_cons_of_some hf] at h
        rcases List.mem_cons.mp h with rfl | h
        · exact (of_first? hf).1
        · exact ih h

theorem exists_of_mem_scan {entry : Nat} (h : entry ∈ (scan aliases text).1) :
    ∃ a ∈ aliases, a.entry = entry := by
  obtain ⟨a, ha, he⟩ := List.mem_map.mp (List.mem_eraseDups.mp h)
  exact ⟨a, mem_of_scanFrom ha, he⟩

/-- Aliases that each have a word the text lacks are not found in it. -/
theorem scan_of_absent (h : ∀ a ∈ aliases, ∃ w ∈ a.words, w ∉ text.map Token.word) :
    scan aliases text = ([], text) := by
  have hfrom : scanFrom aliases 0 text = ([], text) := by
    induction text with
    | nil => exact scanFrom_nil aliases 0
    | cons t ts ih =>
      have hts : scanFrom aliases 0 ts = ([], ts) := ih fun a ha => by
        obtain ⟨w, hw, hn⟩ := h a ha
        exact ⟨w, hw, fun hm => hn (List.mem_cons_of_mem _ hm)⟩
      have hn : first? aliases (t :: ts) = none := by
        refine first?_eq_none.mpr fun a ha => Bool.eq_false_iff.mpr fun hs => ?_
        obtain ⟨w, hw, hn⟩ := h a ha
        rw [← mem_of_standsAt hs] at hw
        exact hn (List.map_subset _ (List.take_subset _ _) hw)
      rw [scanFrom_cons_of_none hn, hts]
  rw [scan, hfrom]
  rfl

/-- Something is found in a text where an alias stands, if only an alias before it. -/
theorem scan_ne_nil (before : List Token) (ha : a ∈ aliases)
    (hs : standsAt a.words (t :: ts) = true) : (scan aliases (before ++ t :: ts)).1 ≠ [] := by
  have hfrom : (scanFrom aliases 0 (before ++ t :: ts)).1 ≠ [] := by
    induction before with
    | nil =>
      cases hf : first? aliases (t :: ts) with
      | none => cases (first?_eq_none.mp hf a ha).symm.trans hs
      | some b =>
        rw [List.nil_append, scanFrom_cons_of_some hf]
        exact List.cons_ne_nil _ _
    | cons u before ih =>
      cases hf : first? aliases (u :: (before ++ t :: ts)) with
      | none =>
        rw [List.cons_append, scanFrom_cons_of_none hf]
        exact ih
      | some b =>
        rw [List.cons_append, scanFrom_cons_of_some hf]
        exact List.cons_ne_nil _ _
  obtain ⟨b, bs, hb⟩ := List.exists_cons_of_ne_nil hfrom
  rw [scan]
  dsimp only
  rw [hb, List.map_cons, List.eraseDups_cons]
  exact List.cons_ne_nil _ _

/-- A word of no alias stays free. Those that are skipped are words of an alias. -/
theorem scanFrom_free (h : ∀ a ∈ aliases, a.words ≠ [] ∧ w ∉ a.words) {skip : Nat}
    (hskip : ∀ t ∈ text.take skip, t.word ≠ w) (ht : ⟨w, false⟩ ∈ text) :
    ⟨w, false⟩ ∈ (scanFrom aliases skip text).2 := by
  induction text generalizing skip with
  | nil => cases ht
  | cons t ts ih =>
    have hrest {n : Nat} (hn : ∀ u ∈ (t :: ts).take (n + 1), u.word ≠ w) :
        ⟨w, false⟩ ∈ (scanFrom aliases n ts).2 := by
      rw [List.take_succ_cons] at hn
      obtain ⟨hne, hn⟩ := List.forall_mem_cons.mp hn
      rcases List.mem_cons.mp ht with rfl | ht
      · exact absurd rfl hne
      · exact ih hn ht
    cases skip with
    | succ skip => exact List.mem_cons_of_mem _ (hrest hskip)
    | zero =>
      cases hf : first? aliases (t :: ts) with
      | none =>
        rw [scanFrom_cons_of_none hf]
        rcases List.mem_cons.mp ht with rfl | ht
        · exact List.mem_cons_self
        · exact List.mem_cons_of_mem _ (ih (by simp) ht)
      | some a =>
        obtain ⟨ha, hs⟩ := of_first? hf
        obtain ⟨hne, hw⟩ := h a ha
        have hlen : a.words.length - 1 + 1 = a.words.length :=
          Nat.succ_pred_eq_of_pos (List.length_pos_iff.mpr hne)
        rw [scanFrom_cons_of_some hf]
        refine List.mem_cons_of_mem _ (hrest fun u hu hword => hw ?_)
        rw [hlen] at hu
        rw [← mem_of_standsAt hs, ← hword]
        exact List.mem_map_of_mem hu

theorem scan_free (h : ∀ a ∈ aliases, a.words ≠ [] ∧ w ∉ a.words) (ht : ⟨w, false⟩ ∈ text) :
    ⟨w, false⟩ ∈ (scan aliases text).2 :=
  scanFrom_free h (by simp) ht

/-- The first word stays free where no alias begins with it. -/
theorem scan_cons_free (h : ∀ a ∈ aliases, a.words ≠ [] ∧ a.words.head? ≠ some t.word) :
    (scan aliases (t :: ts)).2 = t :: (scan aliases ts).2 := by
  have hn : first? aliases (t :: ts) = none :=
    first?_eq_none.mpr fun a ha => Bool.eq_false_iff.mpr fun hs =>
      (h a ha).2 (head_of_standsAt hs (h a ha).1)
  rw [scan, scanFrom_cons_of_none hn]
  rfl

/-- The first entry found is one of which an alias stands at the start, if there is one. -/
theorem head_scan (ha : a ∈ aliases) (hs : standsAt a.words (t :: ts) = true) :
    ∃ b ∈ aliases, standsAt b.words (t :: ts) = true ∧
      (scan aliases (t :: ts)).1.head? = some b.entry := by
  cases hf : first? aliases (t :: ts) with
  | none => cases (first?_eq_none.mp hf a ha).symm.trans hs
  | some b =>
    obtain ⟨hb, hs⟩ := of_first? hf
    refine ⟨b, hb, hs, ?_⟩
    rw [scan, scanFrom_cons_of_some hf]
    dsimp only
    rw [List.map_cons, List.eraseDups_cons, List.head?_cons]

end Alias

theorem Token.ofText_normalize (text : String) :
    Token.ofText (Text.normalize text) = (Text.words text).map fun w => ⟨w, false⟩ := by
  rw [Token.ofText, Text.tokens_normalize]

theorem Token.map_word_ofText (text : String) :
    (Token.ofText (Text.normalize text)).map Token.word = Text.words text := by
  rw [Token.ofText_normalize, List.map_map]
  exact List.map_id _

theorem Token.map_word_modify (text : List Token) (i : Nat) :
    (text.modify i fun t => { t with taken := true }).map Token.word = text.map Token.word := by
  refine List.ext_getElem? fun j => ?_
  rw [List.getElem?_map, List.getElem?_map, List.getElem?_modify]
  cases text[j]? with
  | none => rfl
  | some t => by_cases hij : i = j <;> simp [hij]

namespace Registry

variable {r : Registry} {text : List Token}

theorem exists_of_scan_ne_nil (h : (Alias.scan r.metricAliases text).1 ≠ []) :
    ∃ i m, (Alias.scan r.metricAliases text).1.head? = some i ∧ r.metrics[i]? = some m := by
  obtain ⟨i, rest, hi⟩ := List.exists_cons_of_ne_nil h
  obtain ⟨a, ha, rfl⟩ := Alias.exists_of_mem_scan (hi ▸ List.mem_cons_self)
  obtain ⟨-, m, hm, -⟩ := Alias.mem_index.mp ha
  exact ⟨a.entry, m, by rw [hi, List.head?_cons], hm⟩

/-- A metric that is named by an alias is named for certain, and no misspelling is looked for. -/
theorem metricIn_of_head {i : Nat} {m : Metric}
    (h : (Alias.scan r.metricAliases text).1.head? = some i) (hm : r.metrics[i]? = some m)
    (threshold : Float) :
    r.metricIn threshold text = (some ⟨m.code, 1⟩, (Alias.scan r.metricAliases text).2) := by
  rw [metricIn]
  dsimp only
  rw [h, Option.bind_some, hm]

/-- A bank is named where a surface form of one stands. -/
theorem banksIn_ne_nil {b : Bank} {form : String} (hb : b ∈ r.banks) (hf : form ∈ b.surfaceForms)
    (hne : Text.words form ≠ []) (before after : List Token) :
    (r.banksIn (before ++ ((Text.words form).map (fun w => ⟨w, false⟩) ++ after))).1 ≠ [] := by
  obtain ⟨i, hi⟩ := List.getElem?_of_mem hb
  have ha : ⟨Text.words form, i⟩ ∈ r.bankAliases :=
    Alias.mem_index.mpr ⟨hne, b, hi, form, hf, rfl⟩
  have hs := Alias.standsAt_append (Text.words form) after
  generalize hts : (Text.words form).map (fun w => (⟨w, false⟩ : Token)) ++ after = ts at hs ⊢
  obtain ⟨t, ts, rfl⟩ := List.exists_cons_of_ne_nil (l := ts) (by simp [← hts, hne])
  have hscan := Alias.scan_ne_nil before ha hs
  obtain ⟨j, hj⟩ := List.exists_mem_of_ne_nil _ hscan
  obtain ⟨a, ha, rfl⟩ := Alias.exists_of_mem_scan hj
  obtain ⟨-, b', hb', -⟩ := Alias.mem_index.mp ha
  refine List.ne_nil_of_mem (a := b'.id) (List.mem_filterMap.mpr ⟨a.entry, hj, ?_⟩)
  rw [hb', Option.map_some]

theorem banksIn_eq (r : Registry) (text : List Token) : r.banksIn text =
    ((Alias.scan r.bankAliases text).1.filterMap fun i => (r.banks[i]?).map Bank.id,
      (Alias.scan r.bankAliases text).2) := rfl

theorem filtersIn_eq (r : Registry) (text : List Token) : r.filtersIn text =
    ((Alias.scan r.filterAliases text).1.filterMap fun i => (r.filters[i]?).map SegmentFilter.id,
      (Alias.scan r.filterAliases text).2) := rfl

theorem map_word_banksIn (r : Registry) (text : List Token) :
    (r.banksIn text).2.map Token.word = text.map Token.word :=
  Alias.map_word_scan r.bankAliases text

theorem map_word_filtersIn (r : Registry) (text : List Token) :
    (r.filtersIn text).2.map Token.word = text.map Token.word :=
  Alias.map_word_scan r.filterAliases text

theorem map_word_metricIn (r : Registry) (threshold : Float) (text : List Token) :
    (r.metricIn threshold text).2.map Token.word = text.map Token.word := by
  have hs := Alias.map_word_scan r.metricAliases text
  unfold metricIn
  dsimp only
  split
  · exact hs
  · split
    · split
      · rw [← hs, Token.map_word_modify]
      · exact hs
    · exact hs

/-- The word by itself is an alias of a metric, and it is in no alias of a bank. -/
structure IsKeyword (r : Registry) (w : String) : Prop where
  named : ∃ a ∈ r.metricAliases, a.words = [w]
  unshared : ∀ a ∈ r.bankAliases, w ∉ a.words

end Registry

namespace Mentions

variable {r : Registry} {threshold : Float} {anchor : Anchor} {text : String} {w : String}
  {m : Metric} {code : String}

theorem of_eq {banks filters : List String} {metric : Option MetricMention}
    {afterBanks afterMetric words : List Token}
    (hb : r.banksIn (Token.ofText (Text.normalize text)) = (banks, afterBanks))
    (hm : r.metricIn threshold afterBanks = (metric, afterMetric))
    (hf : r.filtersIn afterMetric = (filters, words)) : of r threshold anchor text =
      { normal := Text.normalize text, words, banks, metric, filters,
        period := Phrase.resolve anchor (Text.normalize text)
        topN := Cues.topN? (Text.normalize text) } := by
  simp only [of, hb, hm, hf]

/-- What a text names whose metric is named by an alias, read step by step. -/
theorem of_eq_aliased {normal : String} {banks filters : List String} {i : Nat} {rest : List Nat}
    {afterBanks afterMetric words : List Token} (hn : Text.normalize text = normal)
    (hb : r.banksIn (Token.ofText normal) = (banks, afterBanks))
    (hs : Alias.scan r.metricAliases afterBanks = (i :: rest, afterMetric))
    (hm : r.metrics[i]? = some m) (hf : r.filtersIn afterMetric = (filters, words)) :
    of r threshold anchor text =
      { normal, words, banks, metric := some ⟨m.code, 1⟩, filters
        period := Phrase.resolve anchor normal
        topN := Cues.topN? normal } := by
  subst hn
  have hmetric := Registry.metricIn_of_head (congrArg (·.1.head?) hs) hm threshold
  rw [hs] at hmetric
  exact of_eq hb hmetric hf

/-- Banks are looked for first, then a metric among the words left free, then filters. -/
theorem of_eq_parts (r : Registry) (threshold : Float) (anchor : Anchor) (text : String) :
    of r threshold anchor text =
      let afterBanks := (r.banksIn (Token.ofText (Text.normalize text))).2
      let afterMetric := (r.metricIn threshold afterBanks).2
      { normal := Text.normalize text
        words := (r.filtersIn afterMetric).2
        banks := (r.banksIn (Token.ofText (Text.normalize text))).1
        metric := (r.metricIn threshold afterBanks).1
        filters := (r.filtersIn afterMetric).1
        period := Phrase.resolve anchor (Text.normalize text)
        topN := Cues.topN? (Text.normalize text) } :=
  of_eq (Prod.eta _).symm (Prod.eta _).symm (Prod.eta _).symm

theorem map_word_of (r : Registry) (threshold : Float) (anchor : Anchor) (text : String) :
    (of r threshold anchor text).words.map Token.word = Text.words text := by
  rw [of_eq_parts]
  dsimp only
  rw [r.map_word_filtersIn, r.map_word_metricIn, r.map_word_banksIn, Token.map_word_ofText]

theorem comparisonCue_of (r : Registry) (threshold : Float) (anchor : Anchor) (text : String) :
    (of r threshold anchor text).comparisonCue =
      (Text.words text).any Cues.comparison.contains := by
  rw [← map_word_of r threshold anchor, List.any_map]
  rfl

theorem metric_of_head {i : Nat} (h : (Alias.scan r.metricAliases
      (r.banksIn (Token.ofText (Text.normalize text))).2).1.head? = some i)
    (hm : r.metrics[i]? = some m) :
    (of r threshold anchor text).metric = some ⟨m.code, 1⟩ := by
  rw [of_eq_parts]
  dsimp only
  rw [Registry.metricIn_of_head h hm]

theorem banks_ne_nil (threshold : Float) (anchor : Anchor) {b : Bank} {form : String}
    (hb : b ∈ r.banks) (hf : form ∈ b.surfaceForms) (hne : Text.words form ≠ [])
    {before after : List String} (ht : Text.words text = before ++ (Text.words form ++ after)) :
    (of r threshold anchor text).banks ≠ [] := by
  have hbanks := Registry.banksIn_ne_nil hb hf hne (before.map fun w => ⟨w, false⟩)
    (after.map fun w => ⟨w, false⟩)
  rw [← List.map_append, ← List.map_append, ← ht, ← Token.ofText_normalize] at hbanks
  rw [of_eq_parts]
  dsimp only
  exact hbanks

theorem metric_ne_none (threshold : Float) (anchor : Anchor) (h : r.IsKeyword w)
    (ht : w ∈ Text.words text) : (of r threshold anchor text).metric ≠ none := by
  have hmem : ⟨w, false⟩ ∈ (r.banksIn (Token.ofText (Text.normalize text))).2 := by
    rw [Registry.banksIn_eq, Token.ofText_normalize]
    dsimp only
    refine Alias.scan_free (fun a ha => ⟨Alias.words_ne_nil_of_index ha, h.unshared a ha⟩) ?_
    exact List.mem_map.mpr ⟨w, ht, rfl⟩
  obtain ⟨a, ha, haw⟩ := h.named
  obtain ⟨before, after, hsplit⟩ := List.append_of_mem hmem
  have hs : Alias.standsAt a.words (⟨w, false⟩ :: after) = true := by
    rw [haw]
    exact Alias.standsAt_append [w] after
  have hscan := Alias.scan_ne_nil before ha hs
  rw [← hsplit] at hscan
  obtain ⟨i, m, hi, hm⟩ := Registry.exists_of_scan_ne_nil hscan
  rw [metric_of_head hi hm]
  exact Option.some_ne_none _

/-- A text that begins with a keyword asks for its metric, where no alias of another metric begins
with it. -/
theorem metric_of_keyword (h : r.IsKeyword w)
    (honly : ∀ a ∈ r.metricAliases, a.words.head? = some w →
      r.metricCodes[a.entry]? = some code)
    {rest : List String} (ht : Text.words text = w :: rest) :
    (of r threshold anchor text).metric = some ⟨code, 1⟩ := by
  have hfree : ∀ a ∈ r.bankAliases, a.words ≠ [] ∧ a.words.head? ≠ some w := fun a ha =>
    ⟨Alias.words_ne_nil_of_index ha, fun hh => h.unshared a ha (List.mem_of_head? hh)⟩
  have hbanks : ∃ after, (r.banksIn (Token.ofText (Text.normalize text))).2 =
      ⟨w, false⟩ :: after := by
    rw [Registry.banksIn_eq, Token.ofText_normalize, ht, List.map_cons]
    exact ⟨_, Alias.scan_cons_free hfree⟩
  obtain ⟨after, hafter⟩ := hbanks
  obtain ⟨a, ha, haw⟩ := h.named
  have hs : Alias.standsAt a.words (⟨w, false⟩ :: after) = true := by
    rw [haw]
    exact Alias.standsAt_append [w] after
  obtain ⟨b, hb, hbs, hhead⟩ := Alias.head_scan ha hs
  have hcode := honly b hb (Alias.head_of_standsAt hbs (Alias.words_ne_nil_of_index hb))
  rw [Registry.metricCodes, List.getElem?_map, Option.map_eq_some_iff] at hcode
  obtain ⟨m, hm, rfl⟩ := hcode
  rw [← hafter] at hhead
  exact metric_of_head hhead hm

/-- A text names no filter where every alias of one has a word that the text lacks. -/
theorem filters_of_absent (h : ∀ a ∈ r.filterAliases, ∃ w ∈ a.words, w ∉ Text.words text) :
    (of r threshold anchor text).filters = [] := by
  have hwords : (r.metricIn threshold (r.banksIn (Token.ofText (Text.normalize text))).2).2.map
      Token.word = Text.words text := by
    rw [r.map_word_metricIn, r.map_word_banksIn, Token.map_word_ofText]
  rw [← hwords] at h
  rw [of_eq_parts]
  dsimp only
  rw [Registry.filtersIn_eq, Alias.scan_of_absent h]
  rfl

end Mentions

end BankQuery
