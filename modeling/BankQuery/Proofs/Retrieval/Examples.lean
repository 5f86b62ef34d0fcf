import BankQuery.Proofs.Candidate.Serving
import BankQuery.Retrieval.Corpus

/-!
# Worked examples before the guard

A worked example is laid out as a generated statement is, but it is sorted by the labels of its
headings where that one is sorted by columns. The guard takes every name in a statement for a
column, so an example is let through if and only if the table happens to have columns with the names
of these labels. Two of the labels that decide it are keywords: where no name of the schema is one,
every example is turned down.
-/

namespace BankQuery.Corpus

open Sql Guard

/-- What a worked example is about, in the terms of a generated statement. -/
def exampleShape (mode : Mode) : Generation.Shape where
  mode := mode
  order := .descending
  banks :=
    match mode with
    | .single => 1
    | .compare => 2
    | .ranking => 0
  filters := 0
  leavesOutSystem := true

def exampleLabels : Mode → List String
  | .single | .compare => ["bank", "period"]
  | .ranking => ["value"]

def exampleSorting : Mode → Sorting
  | .single | .compare => { field := .plain "bank" }
  | .ranking => { field := .plain "value", descending := some true }

def exampleSortings : Mode → List Sorting
  | .single | .compare => [{ field := .plain "period" }]
  | .ranking => []

def exampleReport (t : Table) (column : String) (mode : Mode) : Report :=
  { Generation.report t column none (exampleShape mode) with
    sorting := exampleSorting mode
    sortings := exampleSortings mode }

def examplePlaceholders : Mode → List String
  | .single => ["$1", "$2", "$3"]
  | .compare | .ranking => ["$1", "$2", "$3", "$4"]

/-- The candidate has the statement of a worked example, its placeholders for the names of its
parameters, and its layout. -/
structure Follows (c : Candidate) (t : Table) (column : String) (mode : Mode) : Prop where
  statement : c.statement = exampleStatement t column mode
  parameters : c.parameters.map Parameter.name = examplePlaceholders mode
  tables : c.tables = [t.name]
  layout : c.mode = mode

section Report

variable {t : Table} {column : String} {mode : Mode}

theorem exampleStatement_eq :
    exampleStatement t column mode = (exampleReport t column mode).text := by
  have hone : holeName 1 = "$1" := rfl
  have htwo : holeName 2 = "$2" := rfl
  have hthree : holeName 3 = "$3" := rfl
  have hfour : holeName 4 = "$4" := rfl
  -- The equations of `exampleStatement` are slow to state, so that it is opened as a whole.
  delta exampleStatement
  cases mode with
  | single =>
    have hpieces : (exampleReport t column .single).pieces = listedPieces Heading.pieces
        ⟨.plain t.bankColumn, "bank"⟩ [⟨.plain t.timeColumn, "period"⟩, ⟨.plain column, "value"⟩] ++
          ([Piece.word "FROM", .word t.name, .word "WHERE"] ++
            (conjunctionPieces (.equals t.bankColumn 1) [.between t.timeColumn 2 3] ++
              [.word "ORDER", .word "BY", .word "bank", .comma, .word "period"])) := rfl
    simp [Report.text, hpieces, listedPieces, Heading.pieces, Field.pieces, conjunctionPieces,
      Test.pieces, Test.behind, Test.column, spelled, Piece.text, hone, htwo, hthree,
      ← String.toList_inj]
  | compare =>
    have hpieces : (exampleReport t column .compare).pieces = listedPieces Heading.pieces
        ⟨.plain t.bankColumn, "bank"⟩ [⟨.plain t.timeColumn, "period"⟩, ⟨.plain column, "value"⟩] ++
          ([Piece.word "FROM", .word t.name, .word "WHERE"] ++
            (conjunctionPieces (.within t.bankColumn 1 [2]) [.between t.timeColumn 3 4] ++
              [.word "ORDER", .word "BY", .word "bank", .comma, .word "period"])) := rfl
    simp [Report.text, hpieces, listedPieces, Heading.pieces, Field.pieces, conjunctionPieces,
      Test.pieces, Test.behind, Test.column, spelled, Piece.text, hone, htwo, hthree, hfour,
      ← String.toList_inj]
  | ranking =>
    have hpieces : (exampleReport t column .ranking).pieces = listedPieces Heading.pieces
        ⟨.plain t.bankColumn, "bank"⟩
          [⟨.applied "MAX" t.timeColumn, "period"⟩, ⟨.applied "AVG" column, "value"⟩] ++
          ([Piece.word "FROM", .word t.name, .word "WHERE"] ++
            (conjunctionPieces (.between t.timeColumn 1 2) [.differs t.bankColumn 3] ++
              [.word "GROUP", .word "BY", .word t.bankColumn, .word "ORDER", .word "BY",
                .word "value", .word "DESC", .word "LIMIT", .hole 4])) := rfl
    simp [Report.text, hpieces, listedPieces, Heading.pieces, Field.pieces, conjunctionPieces,
      Test.pieces, Test.behind, Test.column, spelled, Piece.text, hone, htwo, hthree, hfour,
      ← String.toList_inj]

theorem labels_exampleReport (t : Table) (column : String) (mode : Mode) :
    ((exampleReport t column mode).sorting :: (exampleReport t column mode).sortings).map
      (fun s => s.field.column) = exampleLabels mode := by
  cases mode with
  | single | compare | ranking => rfl

theorem aggregates_exampleReport : (exampleReport t column mode).Aggregates where
  fields := Generation.aggregates_report.fields
  sortings := by
    intro s hs f c hf
    cases mode with
    | single | compare =>
      rcases List.mem_pair.mp hs with rfl | rfl
      all_goals cases hf
    | ranking =>
      rw [List.mem_singleton.mp hs] at hf
      cases hf

theorem columns_exampleReport {p : String → Prop} (hbank : p t.bankColumn) (htime : p t.timeColumn)
    (hcolumn : p column) (hlabels : ∀ l ∈ exampleLabels mode, p l) :
    (exampleReport t column mode).Columns p := by
  have h : (Generation.report t column none (exampleShape mode)).Columns p :=
    Generation.columns_report.mpr ⟨hbank, htime, hcolumn, fun g hg => by cases hg⟩
  refine ⟨h.fields, h.tests, h.group, fun s hs => ?_⟩
  refine hlabels _ ?_
  rw [← labels_exampleReport t column mode]
  exact List.mem_map_of_mem hs

theorem labels_ordinary : ∀ i ∈ (exampleReport t column mode).heading ::
    (exampleReport t column mode).headings, IsOrdinary i.label :=
  Generation.labels_report

theorem time_exampleReport (t : Table) (column : String) (mode : Mode) :
    ∃ low high, Test.between t.timeColumn low high ∈
      (exampleReport t column mode).test :: (exampleReport t column mode).tests :=
  Generation.time_report t column none (exampleShape mode)

theorem holes_exampleReport (t : Table) (column : String) (mode : Mode) : ∃ count,
    (exampleReport t column mode).holes = List.range' 1 count ∧
      examplePlaceholders mode = (List.range' 1 count).map holeName := by
  cases mode with
  | single => exact ⟨3, rfl, rfl⟩
  | compare | ranking => exact ⟨4, rfl, rfl⟩

end Report

theorem isOrdinary_exampleLabels : ∀ mode, ∀ l ∈ exampleLabels mode, IsOrdinary l := by
  have hlabels : ∀ l ∈ ["bank", "period", "value"], IsOrdinary l := by decide +kernel
  intro mode l hl
  refine hlabels l ?_
  cases mode with
  | single | compare | ranking => simp [exampleLabels] at hl ⊢; tauto

/-- A worked example made of the names of its table is let through if the labels that it is sorted
by are columns of the table, and only then. -/
theorem check_eq_ok_iff_of_follows {schema : Schema} {c : Candidate} {t : Table} {column : String}
    {mode : Mode} (htable : schema.table? t.name = some t) (hnames : ∀ n ∈ t.names, IsOrdinary n)
    (hbank : t.hasColumn t.bankColumn = true) (htime : t.hasColumn t.timeColumn = true)
    (hcolumn : t.hasColumn column = true) (hc : Follows c t column mode) :
    check schema c = .ok () ↔ ∀ l ∈ exampleLabels mode, t.hasColumn l = true := by
  have hordinary {name : String} (h : t.hasColumn name = true) : IsOrdinary name :=
    Table.isOrdinary_of_names hnames h
  have htableName : (exampleReport t column mode).table = t.name := by
    cases mode with
    | single | compare | ranking => rfl
  have hplain : (exampleReport t column mode).IsPlain :=
    Report.isPlain_of_columns aggregates_exampleReport
      (columns_exampleReport (hordinary hbank) (hordinary htime) (hordinary hcolumn)
        (isOrdinary_exampleLabels mode))
      (htableName ▸ hnames _ (by simp [Table.names])) labels_ordinary
  rw [← htableName] at htable
  have hstatement := hc.statement.trans exampleStatement_eq
  refine ⟨fun h l hl => ?_, fun h => ?_⟩
  · have hcolumns := columns_of_check hplain htable hstatement h
    rw [← labels_exampleReport t column mode] at hl
    obtain ⟨s, hs, rfl⟩ := List.mem_map.mp hl
    exact hcolumns.sortings s hs
  · obtain ⟨low, high, hbound⟩ := time_exampleReport t column mode
    obtain ⟨count, hholes, hparameters⟩ := holes_exampleReport t column mode
    refine check_report hplain (Report.fits_of_columns aggregates_exampleReport
      (columns_exampleReport hbank htime hcolumn h)) htable hstatement ?_
      (hc.parameters.trans hparameters) List.nodup_range' (fun n => by rw [hholes]) hbound
    rw [hc.tables, htableName]

/-- Where no name is a keyword, the table lacks one of the labels that an example is sorted by. -/
theorem exists_label_of_isUnreserved {t : Table} (hnames : ∀ n ∈ t.names, IsUnreserved n)
    (mode : Mode) : ∃ l ∈ exampleLabels mode, t.hasColumn l = false := by
  have hkeyword : ∀ mode, ∃ l ∈ exampleLabels mode, Text.upper l ∈ keywords := by
    intro mode
    cases mode with
    | single | compare => exact ⟨"period", by decide, by decide +kernel⟩
    | ranking => exact ⟨"value", by decide, by decide +kernel⟩
  obtain ⟨l, hl, hk⟩ := hkeyword mode
  refine ⟨l, hl, Bool.eq_false_iff.mpr fun hcolumn => ?_⟩
  obtain ⟨c, hc, hs⟩ := List.any_eq_true.mp hcolumn
  refine (hnames c.name (List.mem_append_right _ (List.mem_map_of_mem hc))).keyword ?_
  rw [Text.upper_eq_of_sameAscii hs]
  exact hk

/-- The examples are those for the metrics. -/
theorem mem_documents_iff {r : Registry} {d : Document} :
    (exampleCollection, d) ∈ documents r ↔ ∃ m ∈ r.metrics, d ∈ exampleDocuments r m := by
  have hschema : exampleCollection ≠ schemaCollection := by decide
  have hmetric : exampleCollection ≠ metricCollection := by decide
  simp only [documents, List.mem_append, List.mem_flatMap, List.mem_cons, List.mem_map,
    Prod.mk.injEq, hschema, hmetric, hschema.symm, false_and, false_or, and_false, exists_false,
    true_and, exists_eq_right]

theorem mem_exampleDocuments_iff {r : Registry} {t : Table} (ht : r.schema.primary? = some t)
    {m : Metric} {d : Document} :
    d ∈ exampleDocuments r m ↔ ∃ mode, d = exampleDocument t m mode := by
  rw [exampleDocuments, ht]
  simp only [List.mem_map]
  constructor
  · rintro ⟨mode, -, rfl⟩
    exact ⟨mode, rfl⟩
  · rintro ⟨mode, rfl⟩
    refine ⟨mode, ?_, rfl⟩
    cases mode with
    | single | compare | ranking => simp

/-- Each example that a checked registry is described by is let through if the labels that it is
sorted by are columns of the primary table, and only then; so none is where no name is a
keyword. -/
theorem check_examples {r : Registry} (hr : r.check = .ok ())
    (hnames : ∀ n ∈ r.schema.names, IsOrdinary n) {t : Table} (ht : r.schema.primary? = some t)
    (hbank : t.hasColumn t.bankColumn = true) (htime : t.hasColumn t.timeColumn = true)
    {d : Document} (hd : (exampleCollection, d) ∈ documents r) :
    ∃ m ∈ r.metrics, ∃ mode, d = exampleDocument t m mode ∧
      ∀ c, Follows c t m.column mode →
        (check r.schema c = .ok () ↔ ∀ l ∈ exampleLabels mode, t.hasColumn l = true) ∧
        ((∀ n ∈ r.schema.names, IsUnreserved n) → check r.schema c ≠ .ok ()) := by
  obtain ⟨m, hm, hmem⟩ := mem_documents_iff.mp hd
  obtain ⟨mode, rfl⟩ := (mem_exampleDocuments_iff ht).mp hmem
  obtain ⟨t', ht', hcolumns⟩ := (Registry.check_eq_ok_iff.mp hr).primary
  obtain rfl := Option.some.inj (ht.symm.trans ht')
  have hmine : ∀ n ∈ t.names, n ∈ r.schema.names := Schema.mem_names ht
  refine ⟨m, hm, mode, rfl, fun c hc => ?_⟩
  have hiff := check_eq_ok_iff_of_follows (Schema.table?_name ht)
    (fun n hn => hnames n (hmine n hn)) hbank htime (hcolumns m hm) hc
  refine ⟨hiff, fun hunreserved haccept => ?_⟩
  obtain ⟨l, hl, hno⟩ := exists_label_of_isUnreserved (fun n hn => hunreserved n (hmine n hn)) mode
  rw [hiff.mp haccept l hl] at hno
  cases hno

/-- One metric in a table whose columns are named like the labels of the examples. -/
def labelledRegistry : Registry where
  banks := Question.twoBanks.banks
  metrics := [{
    code := "MORA"
    displayName := "Mora"
    description := ""
    column := "value"
    unit := .ratio }]
  schema.tables := [{
    name := "kpis"
    columns := [{ name := "bank", dataType := "text" }, { name := "period", dataType := "date" },
      { name := "value", dataType := "double precision" }]
    timeColumn := "period"
    bankColumn := "bank" }]
  schema.primaryTable := "kpis"

theorem check_examples_labelled : labelledRegistry.check = .ok () ∧
    (∀ n ∈ labelledRegistry.schema.names, IsOrdinary n) ∧
    ∃ t, labelledRegistry.schema.primary? = some t ∧ t.hasColumn t.bankColumn = true ∧
      t.hasColumn t.timeColumn = true ∧
      ∃ d, (exampleCollection, d) ∈ documents labelledRegistry ∧
        ∃ m ∈ labelledRegistry.metrics, ∃ mode, d = exampleDocument t m mode ∧
          ∀ c, Follows c t m.column mode → check labelledRegistry.schema c = .ok () := by
  have hr : labelledRegistry.check = .ok () := by decide +kernel
  have hnames : ∀ n ∈ labelledRegistry.schema.names, IsOrdinary n := by decide +kernel
  have ht : labelledRegistry.schema.primary? = some labelledRegistry.schema.tables[0] := by
    decide +kernel
  have hd : (exampleCollection, exampleDocument labelledRegistry.schema.tables[0]
      labelledRegistry.metrics[0] .ranking) ∈ documents labelledRegistry :=
    mem_documents_iff.mpr ⟨_, List.getElem_mem _, (mem_exampleDocuments_iff ht).mpr ⟨_, rfl⟩⟩
  have hlabels : ∀ mode, ∀ l ∈ exampleLabels mode,
      labelledRegistry.schema.tables[0].hasColumn l = true := by
    intro mode
    cases mode with
    | single | compare | ranking => decide +kernel
  obtain ⟨m, hm, mode, hmode, hcheck⟩ := check_examples hr hnames ht (by decide +kernel)
    (by decide +kernel) hd
  exact ⟨hr, hnames, _, ht, by decide +kernel, by decide +kernel, _, hd, m, hm, mode, hmode,
    fun c hc => (hcheck c hc).1.mpr (hlabels mode)⟩

def servedTable : Table := Question.twoBanksServed.schema.tables[0]

def servedMetric : Metric := Question.twoBanksServed.metrics[0]

def oneBankExample : Candidate where
  statement := exampleStatement servedTable servedMetric.column .single
  parameters := [⟨"$1", .text "NORTE"⟩, ⟨"$2", .date hostileQuestion.range.start⟩,
    ⟨"$3", .date hostileQuestion.range.stop⟩]
  tables := [servedTable.name]
  columns := [servedTable.bankColumn, servedTable.timeColumn, servedMetric.column]
  mode := .single
  topN := none
  attempt := 1

/-- An example of a checked registry may be turned down although no name is a keyword and the
primary table has its columns of banks and months: it is sorted by labels. -/
theorem check_rejects_example : ¬ ∀ r : Registry, r.check = .ok () →
    (∀ n ∈ r.schema.names, IsUnreserved n) →
      ∀ t, r.schema.primary? = some t → t.hasColumn t.bankColumn = true →
        t.hasColumn t.timeColumn = true → ∀ m ∈ r.metrics, ∀ mode,
          (exampleCollection, exampleDocument t m mode) ∈ documents r →
            ∀ c, Follows c t m.column mode → check r.schema c = .ok () := by
  intro hall
  have hr : Question.twoBanksServed.check = .ok () := by decide +kernel
  have hnames : ∀ n ∈ Question.twoBanksServed.schema.names, IsUnreserved n := by decide +kernel
  have ht : Question.twoBanksServed.schema.primary? = some servedTable := by decide +kernel
  have hbank : servedTable.hasColumn servedTable.bankColumn = true := by decide
  have htime : servedTable.hasColumn servedTable.timeColumn = true := by decide
  have hcolumn : servedTable.hasColumn servedMetric.column = true := by decide
  have hd : (exampleCollection, exampleDocument servedTable servedMetric .single) ∈
      documents Question.twoBanksServed :=
    mem_documents_iff.mpr ⟨_, List.getElem_mem _, (mem_exampleDocuments_iff ht).mpr ⟨_, rfl⟩⟩
  have hc : Follows oneBankExample servedTable servedMetric.column .single := ⟨rfl, rfl, rfl, rfl⟩
  have haccept := hall _ hr hnames _ ht hbank htime _ (List.getElem_mem _) _ hd _ hc
  have hordinary : ∀ n ∈ servedTable.names, IsOrdinary n := fun n hn =>
    (hnames n (Schema.mem_names ht n hn)).isOrdinary
  have hlabels := (check_eq_ok_iff_of_follows (Schema.table?_name ht) hordinary hbank htime hcolumn
    hc).mp haccept
  have hno : servedTable.hasColumn "bank" = false := by decide
  rw [hlabels "bank" (by decide)] at hno
  cases hno

end BankQuery.Corpus
