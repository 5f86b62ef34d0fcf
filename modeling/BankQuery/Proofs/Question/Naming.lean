import BankQuery.Proofs.Question.Segmentation

/-!
# Texts that are a name

A text can be looked up as a name of an entry, and it can be scanned for names. A text that is found
by the first way is found by the second one as well, as the same entry and as nothing else:
`Registry.scan_of_named`. Names that several entries share, and names that are a part of the text,
change nothing of that.
-/

namespace BankQuery

section Names

variable {α : Type} {entries : List α} {forms : α → List String} {text : String} {e : α} {i : Nat}

theorem names_iff {fs : List String} :
    names fs (Text.normalize text) = true ↔ ∃ form ∈ fs, Text.words form = Text.words text := by
  rw [names, List.any_eq_true]
  refine exists_congr fun form => and_congr_right fun _ => ?_
  rw [beq_iff_eq]
  constructor
  · intro he
    rw [← Text.tokens_normalize form, he, Text.tokens_normalize]
  · intro he
    rw [Text.normalize, Text.normalize, he]

def firstNamed? (entries : List α) (forms : α → List String) (text : String) : Option Nat :=
  entries.findIdx? fun e => names (forms e) (Text.normalize text)

theorem exists_firstNamed? (h : Registry.namedIn entries forms text = some e) :
    Text.words text ≠ [] ∧ ∃ i, firstNamed? entries forms text = some i ∧ entries[i]? = some e := by
  unfold Registry.namedIn at h
  split at h
  · cases h
  · rename_i hn
    obtain ⟨hnamed, i, hi, he, hbefore⟩ := List.find?_eq_some_iff_getElem.mp h
    constructor
    · intro hnil
      rw [Text.normalize, hnil] at hn
      exact hn rfl
    · refine ⟨i, List.findIdx?_eq_some_iff_getElem.mpr ⟨hi, he ▸ hnamed, fun j hj => ?_⟩, ?_⟩
      · simpa using hbefore j hj
      · rw [List.getElem?_eq_getElem hi, he]

theorem of_firstNamed? (h : firstNamed? entries forms text = some i) :
    (∃ e, entries[i]? = some e ∧ ∃ form ∈ forms e, Text.words form = Text.words text) ∧
    ∀ j e, entries[j]? = some e → (∃ form ∈ forms e, Text.words form = Text.words text) →
      i ≤ j := by
  obtain ⟨hi, hnamed, hbefore⟩ := List.findIdx?_eq_some_iff_getElem.mp h
  refine ⟨⟨entries[i], List.getElem?_eq_getElem hi, names_iff.mp hnamed⟩, fun j e he hform => ?_⟩
  apply Nat.le_of_not_lt
  intro hlt
  rw [List.getElem?_eq_getElem (by omega), Option.some_inj] at he
  exact hbefore j hlt (he ▸ names_iff.mpr hform)

/-- In a text that names an entry no alias is longer than the text, and those that are as long are
names of the text as well, of the same or of later entries. -/
theorem isBest_of_firstNamed? (hne : Text.words text ≠ [])
    (h : firstNamed? entries forms text = some i) :
    Alias.IsBest (Alias.index (entries.map forms)) (Token.ofText (Text.normalize text))
      ⟨Text.words text, i⟩ := by
  obtain ⟨⟨e, he, hform⟩, hfirst⟩ := of_firstNamed? h
  have hstands : (⟨Text.words text, i⟩ : Alias).StandsFree
      (Token.ofText (Text.normalize text)) := by
    rw [Token.ofText_normalize]
    exact List.prefix_rfl
  refine ⟨Alias.mem_index.mpr ⟨hne, e, he, hform⟩, hstands, fun b _ hs => ?_,
    fun b hb hs hlen => ?_⟩
  · have hle := hs.length_le
    rwa [Token.ofText_normalize, List.length_map, List.length_map] at hle
  · obtain ⟨-, e', he', form', hform', hwords⟩ := Alias.mem_index.mp hb
    have heq := Alias.eq_words_of_standsFree hs hstands hlen
    exact hfirst b.entry e' he' ⟨form', hform', hwords.trans heq⟩

/-- The scan finds the entry and nothing else in a text, at the number of the first entry that the
text names, and it takes all words of the text. -/
def FoundAlone (aliases : List Alias) (entries : List α) (forms : α → List String) (text : String)
    (e : α) : Prop :=
  ∃ i, firstNamed? entries forms text = some i ∧ entries[i]? = some e ∧
    Alias.scan aliases (Token.ofText (Text.normalize text)) =
      ([i], (Text.words text).map fun w => ⟨w, true⟩)

theorem foundAlone_of_namedIn (h : Registry.namedIn entries forms text = some e) :
    FoundAlone (Alias.index (entries.map forms)) entries forms text e := by
  obtain ⟨hne, i, hi, he⟩ := exists_firstNamed? h
  refine ⟨i, hi, he, ?_⟩
  have hlen : (Text.words text).length = (Token.ofText (Text.normalize text)).length := by
    rw [Token.ofText_normalize, List.length_map]
  rw [Alias.scan_of_whole (isBest_of_firstNamed? hne hi) hlen, Token.ofText_normalize,
    List.map_map]
  rfl

end Names

namespace Registry

/-- A text that names a bank, a metric or a filter by itself is read as that one and nothing else,
whatever other entries have the same name or a name that is a part of it. -/
theorem scan_of_named (r : Registry) (text : String) :
    (∀ b, r.bankNamed? text = some b →
      FoundAlone r.bankAliases r.banks Bank.surfaceForms text b) ∧
    (∀ m, r.metricNamed? text = some m →
      FoundAlone r.metricAliases r.metrics Metric.surfaceForms text m) ∧
    (∀ f, r.filterNamed? text = some f →
      FoundAlone r.filterAliases r.filters SegmentFilter.surfaceForms text f) :=
  ⟨fun _ => foundAlone_of_namedIn, fun _ => foundAlone_of_namedIn, fun _ => foundAlone_of_namedIn⟩

/-- Names that are shared, and names that are a part of others. -/
def sharedNames : Registry where
  banks := [{ id := "BANCO", displayName := "Banco" },
    { id := "NORTE", displayName := "Norte", aliases := ["el banco"] },
    { id := "SUR", displayName := "Sur", aliases := ["El Bánco"] }]
  metrics := [{
      code := "CARTERA"
      displayName := "Cartera"
      description := ""
      column := "cartera"
      unit := .millions },
    { code := "VENCIDA"
      displayName := "Cartera vencida"
      description := ""
      column := "vencida"
      unit := .millions }]
  filters := [{ id := "auto", displayName := "Auto" },
    { id := "usado", displayName := "Auto usado" }, { id := "viejo", displayName := "auto-usado" }]
  schema := Question.twoBanks.schema

theorem scan_of_named_shared :
    (∃ b, sharedNames.bankNamed? "¿EL BANCO?" = some b ∧ b.id = "NORTE" ∧
      FoundAlone sharedNames.bankAliases sharedNames.banks Bank.surfaceForms "¿EL BANCO?" b) ∧
    (∃ m, sharedNames.metricNamed? "cartera vencida" = some m ∧ m.code = "VENCIDA" ∧
      FoundAlone sharedNames.metricAliases sharedNames.metrics Metric.surfaceForms
        "cartera vencida" m) ∧
    ∃ f, sharedNames.filterNamed? "AUTO_USADO" = some f ∧ f.id = "usado" ∧
      FoundAlone sharedNames.filterAliases sharedNames.filters SegmentFilter.surfaceForms
        "AUTO_USADO" f := by
  have hbank : (sharedNames.bankNamed? "¿EL BANCO?").map Bank.id = some "NORTE" := by decide
  have hmetric : (sharedNames.metricNamed? "cartera vencida").map Metric.code = some "VENCIDA" := by
    decide
  have hfilter : (sharedNames.filterNamed? "AUTO_USADO").map SegmentFilter.id = some "usado" := by
    decide
  obtain ⟨b, hb, hbid⟩ := Option.map_eq_some_iff.mp hbank
  obtain ⟨m, hm, hmid⟩ := Option.map_eq_some_iff.mp hmetric
  obtain ⟨f, hf, hfid⟩ := Option.map_eq_some_iff.mp hfilter
  exact ⟨⟨b, hb, hbid, (scan_of_named sharedNames "¿EL BANCO?").1 b hb⟩,
    ⟨m, hm, hmid, (scan_of_named sharedNames "cartera vencida").2.1 m hm⟩,
    ⟨f, hf, hfid, (scan_of_named sharedNames "AUTO_USADO").2.2 f hf⟩⟩

end Registry

end BankQuery
