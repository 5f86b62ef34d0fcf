import BankQuery.Proofs.Candidate.Statement
import BankQuery.Proofs.Guard.Reports
import BankQuery.Registry.Standard

/-!
# Generated candidates before the guard

The names in a statement are those of the schema, so that a generated candidate is let through by
the guard of the same schema, whatever the question asks for, whatever has been retrieved for it and
whatever has been rejected before. What is asked of the schema holds of the standard one.
-/

namespace BankQuery

open Sql Guard

/-- The names of the table are ordinary, and its special columns are among its columns. -/
structure Table.IsPlain (t : Table) : Prop where
  name : IsOrdinary t.name
  columns : ∀ c ∈ t.columns, IsOrdinary c.name
  bank : t.hasColumn t.bankColumn = true
  time : t.hasColumn t.timeColumn = true
  segment : ∀ g ∈ t.segmentColumn, t.hasColumn g = true

theorem Table.IsPlain.isOrdinary {t : Table} (h : t.IsPlain) {column : String}
    (hc : t.hasColumn column = true) : IsOrdinary column := by
  obtain ⟨c, hm, hs⟩ := List.any_eq_true.mp hc
  exact (h.columns c hm).of_sameAscii hs

namespace Generation

variable {t : Table} {column : String} {segment : Option String} {s : Shape}

theorem columns_seriesReport {p : String → Prop} : (seriesReport t column segment s).Columns p ↔
    p t.bankColumn ∧ p t.timeColumn ∧ p column ∧ ∀ g ∈ segment, p g := by
  refine ⟨fun h => ⟨?_, ?_, ?_, fun g hg => ?_⟩, fun ⟨hb, ht, hc, hg⟩ => ⟨?_, ?_, ?_, ?_⟩⟩
  · exact h.fields _ List.mem_cons_self
  · exact h.fields ⟨.plain t.timeColumn, "period"⟩ (by simp [seriesReport])
  · exact h.fields ⟨.plain column, "value"⟩ (by simp [seriesReport])
  · exact h.fields ⟨.plain g, "segment"⟩ (by simp [seriesReport, Option.mem_def.mp hg])
  · intro i hi
    simp only [seriesReport, List.mem_cons, List.mem_append, List.mem_map, Option.mem_toList,
      List.not_mem_nil, or_false] at hi
    rcases hi with rfl | (rfl | ⟨g, hm, rfl⟩) | rfl
    · exact hb
    · exact ht
    · exact hg g hm
    · exact hc
  · intro u hu
    simp only [seriesReport, List.mem_cons, List.mem_append, List.mem_map, Option.mem_toList,
      List.not_mem_nil, or_false] at hu
    rcases hu with rfl | ⟨g, hm, rfl⟩ | rfl
    · split <;> exact hb
    · exact hg g hm
    · exact ht
  · intro g hm
    cases hm
  · intro i hi
    simp only [seriesReport, List.mem_cons, List.mem_append, List.mem_map, Option.mem_toList,
      List.not_mem_nil, or_false] at hi
    rcases hi with rfl | ⟨g, hm, rfl⟩ | rfl
    · exact hb
    · exact hg g hm
    · exact ht

theorem columns_rankingReport {p : String → Prop} : (rankingReport t column segment s).Columns p ↔
    p t.bankColumn ∧ p t.timeColumn ∧ p column ∧ ∀ g ∈ segment, p g := by
  refine ⟨fun h => ⟨?_, ?_, ?_, fun g hg => ?_⟩, fun ⟨hb, ht, hc, hg⟩ => ⟨?_, ?_, ?_, ?_⟩⟩
  · exact h.fields _ List.mem_cons_self
  · exact h.tests _ List.mem_cons_self
  · exact h.sortings _ List.mem_cons_self
  · exact h.tests (listTest g _ s.filters) (List.mem_cons_of_mem _
      (List.mem_append_right _ (List.mem_map_of_mem (Option.mem_toList.mpr hg))))
  · intro i hi
    simp only [rankingReport, List.mem_cons, List.not_mem_nil, or_false] at hi
    rcases hi with rfl | rfl | rfl
    · exact hb
    · exact ht
    · exact hc
  · intro u hu
    simp only [rankingReport, List.mem_cons, List.mem_append, List.mem_map, Option.mem_toList] at hu
    rcases hu with rfl | hu | ⟨g, hm, rfl⟩
    · exact ht
    · split at hu
      · rw [List.mem_singleton.mp hu]
        exact hb
      · split at hu
        · rw [List.mem_singleton.mp hu]
          exact hb
        · cases hu
    · exact hg g hm
  · intro g hm
    cases hm
    exact hb
  · intro i hi
    simp only [rankingReport, List.mem_cons, List.not_mem_nil, or_false] at hi
    rcases hi with rfl | rfl
    · exact hc
    · exact hb

/-- A statement names the columns of banks, of months, of the metric and of the segments, and no
others. -/
theorem columns_report {p : String → Prop} : (report t column segment s).Columns p ↔
    p t.bankColumn ∧ p t.timeColumn ∧ p column ∧ ∀ g ∈ segment, p g := by
  unfold report
  split
  · exact columns_rankingReport
  · exact columns_seriesReport
  · exact columns_seriesReport

theorem aggregates_report : (report t column segment s).Aggregates := by
  have hmax : "MAX" ∈ allowedFunctions := by decide
  have havg : "AVG" ∈ allowedFunctions := by decide
  have hseries : (seriesReport t column segment s).Aggregates := by
    constructor
    case fields =>
      intro i hi f c hf
      simp only [seriesReport, List.mem_cons, List.mem_append, List.mem_map, List.not_mem_nil,
        or_false] at hi
      rcases hi with rfl | (rfl | ⟨g, -, rfl⟩) | rfl
      all_goals cases hf
    case sortings =>
      intro i hi f c hf
      simp only [seriesReport, List.mem_cons, List.mem_append, List.mem_map, List.not_mem_nil,
        or_false] at hi
      rcases hi with rfl | ⟨g, -, rfl⟩ | rfl
      all_goals cases hf
  unfold report
  split
  · constructor
    case fields =>
      intro i hi f c hf
      simp only [rankingReport, List.mem_cons, List.not_mem_nil, or_false] at hi
      rcases hi with rfl | rfl | rfl
      · cases hf
      · cases hf
        exact hmax
      · cases hf
        exact havg
    case sortings =>
      intro i hi f c hf
      simp only [rankingReport, List.mem_cons, List.not_mem_nil, or_false] at hi
      rcases hi with rfl | rfl
      · cases hf
        exact havg
      · cases hf
  · exact hseries
  · exact hseries

theorem labels_report : ∀ i ∈ (report t column segment s).heading ::
    (report t column segment s).headings, IsOrdinary i.label := by
  have hlabels : ∀ l ∈ ["bank", "period", "segment", "value"], IsOrdinary l := by decide +kernel
  have hseries : ∀ i ∈ (seriesReport t column segment s).heading ::
      (seriesReport t column segment s).headings, IsOrdinary i.label := by
    intro i hi
    simp only [seriesReport, List.mem_cons, List.mem_append, List.mem_map, List.not_mem_nil,
      or_false] at hi
    rcases hi with rfl | (rfl | ⟨g, -, rfl⟩) | rfl
    all_goals exact hlabels _ (by simp)
  unfold report
  split
  · intro i hi
    simp only [rankingReport, List.mem_cons, List.not_mem_nil, or_false] at hi
    rcases hi with rfl | rfl | rfl
    all_goals exact hlabels _ (by simp)
  all_goals exact hseries

theorem time_report (t : Table) (column : String) (segment : Option String) (s : Shape) :
    ∃ low high, Test.between t.timeColumn low high ∈
    (report t column segment s).test :: (report t column segment s).tests := by
  unfold report
  split
  · exact ⟨1, 2, List.mem_cons_self⟩
  all_goals exact ⟨_, _, List.mem_cons_of_mem _ (List.mem_append_right _ List.mem_cons_self)⟩

theorem names_numbered (values : List BoundValue) :
    (numbered values).map Parameter.name = (List.range' 1 values.length).map holeName := by
  refine List.ext_getElem (by simp [numbered]) fun i _ _ => ?_
  simp only [numbered, List.getElem_map, List.getElem_mapIdx, List.getElem_range', Nat.one_mul,
    Nat.add_comm 1]
  rfl

theorem length_values {q : Question} (options : Options) (r : Registry)
    (h : segment.isSome = !q.filters.isEmpty) :
    (values options r q).length = places segment (shape r q) := by
  have hfilters : (if segment.isSome then q.filters.length else 0) = q.filters.length := by
    rw [h]
    cases q.filters <;> rfl
  have hleft : q.banks.length + (leftOut? r q).toList.length =
      if q.banks.length ≠ 0 then q.banks.length else if (leftOut? r q).isSome then 1 else 0 := by
    unfold leftOut?
    cases q.banks with
    | nil => cases r.systemBank? <;> rfl
    | cons b bs => rfl
  unfold values places shape
  cases q.mode with
  | ranking =>
    simp only [hfilters, ← hleft, List.length_append, List.length_map, List.length_cons,
      List.length_nil]
    omega
  | single | compare =>
    simp only [hfilters, List.length_append, List.length_map, List.length_cons, List.length_nil]

end Generation

/-- A table that is found by some name is found by its own. -/
theorem Schema.table?_name {s : Schema} {name : String} {t : Table} (h : s.table? name = some t) :
    s.table? t.name = some t := by
  unfold Schema.table? at h ⊢
  have hs := List.find?_some h
  have hname : Text.asciiLower t.name = Text.asciiLower name := Text.sameAscii_iff.mp hs
  simpa only [Text.sameAscii, hname] using h

/-- The tables are plain, and a question that asks for segments of a metric that has them is not
without a table. -/
structure Registry.IsPlain (r : Registry) : Prop where
  tables : ∀ t ∈ r.schema.tables, t.IsPlain
  primary : ∃ t, r.schema.primary? = some t ∧ ∀ m ∈ r.metrics, t.hasColumn m.column = true
  segments : ∃ t, r.schema.segments? = some t ∧ t.segmentColumn.isSome = true ∧
    ∀ m ∈ r.metrics, m.segmented = true → t.hasColumn m.column = true

namespace Generation

variable {r : Registry} {q : Question} {m : Metric}

/-- The table that is asked is the primary one, or the one of segments if the question has some. -/
theorem exists_defaultTable? {p : Table → Prop}
    (hprimary : q.filters = [] → ∃ t, r.schema.primary? = some t ∧ p t)
    (hsegments : q.filters ≠ [] → ∃ t, r.schema.segments? = some t ∧ p t) :
    ∃ t name, defaultTable? r q = some t ∧ r.schema.table? name = some t ∧ p t := by
  unfold defaultTable?
  cases hf : q.filters with
  | nil =>
    obtain ⟨t, ht, hp⟩ := hprimary hf
    exact ⟨t, r.schema.primaryTable, ht, ht, hp⟩
  | cons f fs =>
    obtain ⟨t, ht, hp⟩ := hsegments (by rw [hf]; exact List.cons_ne_nil f fs)
    obtain ⟨name, -, hn⟩ := Option.bind_eq_some_iff.mp ht
    exact ⟨t, name, ht, hn, hp⟩

theorem defaultTable?_eq_some (hr : r.IsPlain) (hm : m ∈ r.metrics)
    (hs : q.filters ≠ [] → m.segmented = true) : ∃ t name, defaultTable? r q = some t ∧
      r.schema.table? name = some t ∧ t.hasColumn m.column = true ∧
        (q.filters ≠ [] → t.segmentColumn.isSome = true) := by
  refine exists_defaultTable? (fun hf => ?_) (fun hf => ?_)
  · obtain ⟨t, ht, hc⟩ := hr.primary
    exact ⟨t, ht, hc m hm, fun hne => absurd hf hne⟩
  · obtain ⟨t, ht, hg, hc⟩ := hr.segments
    exact ⟨t, ht, hc m hm (hs hf), fun _ => hg⟩

/-- A table that the context chooses has the metric, and has segments if and only if some are asked
for. -/
theorem contextTable?_eq_some {c : Context} {t : Table} (h : contextTable? r c q m = some t) :
    ∃ name, r.schema.table? name = some t ∧ t.hasColumn m.column = true ∧
      (t.segmentColumn.isSome = true ↔ q.filters ≠ []) := by
  unfold contextTable? at h
  obtain ⟨name, -, hn⟩ := List.mem_filterMap.mp (List.mem_of_find?_eq_some h)
  have hp := List.find?_some h
  rw [Bool.and_eq_true, beq_iff_eq] at hp
  refine ⟨name, hn, hp.1, ?_⟩
  rw [hp.2]
  simp

/-- There always is a table to read, whatever the context says. -/
theorem source?_eq_some (hr : r.IsPlain) (hm : m ∈ r.metrics)
    (hs : q.filters ≠ [] → m.segmented = true) (c : Context) (afterRejection : Bool) :
    ∃ t column name, source? r c q m afterRejection = some (t, column) ∧
      r.schema.table? name = some t ∧ t.hasColumn column = true ∧
        (q.filters ≠ [] → t.segmentColumn.isSome = true) := by
  obtain ⟨d, name, hd, hn, hc, hg⟩ := defaultTable?_eq_some hr hm hs
  have hcolumn {t : Table} (ht : t.hasColumn m.column = true) :
      t.hasColumn ((contextColumn? c m t).getD m.column) = true := by
    cases hcol : contextColumn? c m t with
    | none => exact ht
    | some column => exact List.find?_some hcol
  unfold source?
  cases afterRejection with
  | true =>
    rw [if_pos rfl, hd]
    exact ⟨d, m.column, name, rfl, hn, hc, hg⟩
  | false =>
    rw [if_neg Bool.false_ne_true]
    cases ht : contextTable? r c q m with
    | none =>
      rw [Option.none_or, hd]
      exact ⟨d, _, name, rfl, hn, hcolumn hc, hg⟩
    | some t =>
      obtain ⟨name, hn, hc, hg⟩ := contextTable?_eq_some ht
      exact ⟨t, _, name, rfl, hn, hcolumn hc, hg.mpr⟩

theorem segmentColumn_eq_ok {t : Table} (h : q.filters ≠ [] → t.segmentColumn.isSome = true) :
    ∃ segment, segmentColumn t q = .ok segment ∧ segment.isSome = !q.filters.isEmpty ∧
      ∀ g ∈ segment, g ∈ t.segmentColumn := by
  unfold segmentColumn
  cases hf : q.filters with
  | nil => exact ⟨none, rfl, rfl, fun _ hg => by cases hg⟩
  | cons f fs =>
    obtain ⟨g, hg⟩ := Option.isSome_iff_exists.mp (h (by rw [hf]; exact List.cons_ne_nil f fs))
    refine ⟨some g, ?_, rfl, fun _ hm => by rw [hg]; exact hm⟩
    rw [hg]
    rfl

section Source

variable {r : Registry} {q : Question} {t : Table} {column : String} {segment : Option String}

theorem text_report (he : q.isExecutable = true) (hg : segment.isSome = !q.filters.isEmpty) :
    text t column segment (shape r q) = (report t column segment (shape r q)).text ∧
      (report t column segment (shape r q)).holes = List.range' 1 (places segment (shape r q)) := by
  have hb : (shape r q).mode ≠ .ranking → (shape r q).banks ≠ 0 := by
    intro hmode
    rw [Question.isExecutable, Bool.and_eq_true, Bool.or_eq_true, beq_iff_eq] at he
    simpa [shape] using he.2.resolve_right hmode
  have hf : segment.isSome = true → (shape r q).filters ≠ 0 := by
    intro h
    rw [hg] at h
    simpa [shape] using h
  exact ⟨text_eq hb hf, holes_report hb hf⟩

/-- A candidate made of ordinary names is let through if the columns it names are those of its
table, and only then. -/
theorem check_eq_ok_iff_hasColumns {options : Options} {c : Candidate} (he : q.isExecutable = true)
    (hg : segment.isSome = !q.filters.isEmpty) (htable : r.schema.table? t.name = some t)
    (hname : IsOrdinary t.name) (hbank : IsOrdinary t.bankColumn) (htime : IsOrdinary t.timeColumn)
    (hcolumn : IsOrdinary column) (hsegment : ∀ g ∈ segment, IsOrdinary g)
    (hstatement : c.statement = text t column segment (shape r q)) (htables : c.tables = [t.name])
    (hparameters : c.parameters = numbered (values options r q)) :
    check r.schema c = .ok () ↔ t.hasColumn t.bankColumn = true ∧ t.hasColumn t.timeColumn = true ∧
      t.hasColumn column = true ∧ ∀ g ∈ segment, t.hasColumn g = true := by
  obtain ⟨htext, hholes⟩ := @text_report r q t column segment he hg
  have htableName : (report t column segment (shape r q)).table = t.name := by
    unfold report
    split <;> rfl
  rw [← htableName] at htable hname htables
  have hplain : (report t column segment (shape r q)).IsPlain :=
    Report.isPlain_of_columns aggregates_report
      (columns_report.mpr ⟨hbank, htime, hcolumn, hsegment⟩) hname labels_report
  rw [← columns_report (s := shape r q) (p := fun c => t.hasColumn c = true)]
  refine ⟨columns_of_check hplain htable (hstatement.trans htext), fun hcolumns => ?_⟩
  obtain ⟨low, high, hbound⟩ := time_report t column segment (shape r q)
  refine check_report hplain (Report.fits_of_columns aggregates_report hcolumns) htable
    (hstatement.trans htext) htables ?_ (hholes ▸ List.nodup_range') (fun _ => .rfl) hbound
  rw [hparameters, names_numbered, length_values options r hg, hholes]

end Source

end Generation

open Generation in
/-- A question about a registered metric, which has segments if the question asks for some, becomes
a candidate that the guard lets through. -/
theorem Candidate.generate_accepted {r : Registry} {q : Question} {m : Metric} {code : String}
    (hr : r.IsPlain) (he : q.isExecutable = true) (hcode : q.metric = some code)
    (hm : r.metric? code = some m) (hs : q.filters ≠ [] → m.segmented = true) (options : Options)
    (c : Context) (rejection : Option Rejection) : ∃ candidate,
      Candidate.generate options r q c rejection = .ok candidate ∧
        check r.schema candidate = .ok () := by
  obtain ⟨t, column, name, hsource, hn, hc, hg⟩ :=
    source?_eq_some hr (List.mem_of_find?_eq_some hm) hs c rejection.isSome
  obtain ⟨segment, hsegment, hsome, hmem⟩ := segmentColumn_eq_ok hg
  have ht : t.IsPlain := hr.tables t (List.mem_of_find?_eq_some hn)
  have hgroup : ∀ g ∈ segment, t.hasColumn g = true := fun g hg => ht.segment g (hmem g hg)
  simp only [Candidate.generate, he, Bool.not_true, Bool.false_eq_true, if_false, hcode,
    Option.getD_some, hm, hsource, hsegment]
  exact ⟨_, rfl, (check_eq_ok_iff_hasColumns he hsome (Schema.table?_name hn) ht.name
    (ht.isOrdinary ht.bank) (ht.isOrdinary ht.time) (ht.isOrdinary hc)
    (fun g hg => ht.isOrdinary (hgroup g hg)) rfl rfl rfl).mpr ⟨ht.bank, ht.time, hc, hgroup⟩⟩

namespace Registry

theorem isPlain_standardTables : ∀ t ∈ standard.schema.tables, t.IsPlain := by
  have hnames : ∀ t ∈ standard.schema.tables,
      IsOrdinary t.name ∧ ∀ c ∈ t.columns, IsOrdinary c.name := by decide +kernel
  have hcolumns : ∀ t ∈ standard.schema.tables, t.hasColumn t.bankColumn = true ∧
      t.hasColumn t.timeColumn = true ∧ ∀ g ∈ t.segmentColumn, t.hasColumn g = true := by
    decide
  intro t ht
  obtain ⟨hname, hordinary⟩ := hnames t ht
  obtain ⟨hbank, htime, hsegment⟩ := hcolumns t ht
  exact ⟨hname, hordinary, hbank, htime, hsegment⟩

theorem isPlain_standard : standard.IsPlain where
  tables := isPlain_standardTables
  primary := ⟨standardPrimary, by decide, by decide +kernel⟩
  segments := ⟨standardSegments, by decide, rfl, by decide +kernel⟩

/-- Where codes differ in more than letter case, a metric is found by its code in any letter case. -/
theorem metric?_eq_some {r : Registry} (hr : (r.metrics.map fun m => Text.asciiLower m.code).Nodup)
    {m : Metric} (hm : m ∈ r.metrics) {code : String} (hc : Text.sameAscii m.code code = true) :
    r.metric? code = some m := by
  unfold metric?
  generalize r.metrics = metrics at hr hm ⊢
  induction metrics with
  | nil => cases hm
  | cons x xs ih =>
    rw [List.map_cons, List.nodup_cons] at hr
    rcases List.mem_cons.mp hm with rfl | hm
    · simp only [List.find?_cons, hc]
    · have hne : Text.sameAscii x.code code = false := by
        rw [← Bool.not_eq_true, Text.sameAscii_iff]
        exact fun hx => hr.1 (List.mem_map.mpr ⟨m, hm, (Text.sameAscii_iff.mp hc).trans hx.symm⟩)
      simp only [List.find?_cons, hne]
      exact ih hr.2 hm

theorem nodup_standardCodes :
    (standard.metrics.map fun m => Text.asciiLower m.code).Nodup := by
  decide

end Registry

/-- Whatever is asked of the standard registry, in whatever letter case the metric is named, and
whatever has been retrieved or rejected before, becomes a candidate that the guard lets through. -/
theorem Candidate.generate_standard_accepted {q : Question} {m : Metric} {code : String}
    (he : q.isExecutable = true) (hcode : q.metric = some code)
    (hm : m ∈ Registry.standard.metrics) (hc : Text.sameAscii m.code code = true)
    (hs : q.filters ≠ [] → m.segmented = true) (options : Generation.Options) (c : Context)
    (rejection : Option Rejection) : ∃ candidate,
      Candidate.generate options Registry.standard q c rejection = .ok candidate ∧
        check Registry.standard.schema candidate = .ok () :=
  generate_accepted Registry.isPlain_standard he hcode
    (Registry.metric?_eq_some Registry.nodup_standardCodes hm hc) hs options c rejection

/-- Two banks in two segments, of which one has the text of an injection for its name. -/
def hostileQuestion : Question where
  metric := some "imor"
  banks := ["INVEX", "'; DROP TABLE monthly_kpis; --"]
  range := ⟨⟨2024, 1, 1, by decide, by decide, by decide⟩,
    ⟨2024, 12, 1, by decide, by decide, by decide⟩⟩
  filters := ["consumo", "$1"]
  mode := .compare

def hostileContext : Context where
  metrics := [{
    text := ""
    score := 1
    metadata := [("metric", "IMOR"), ("column", "PERIOD")] }]

theorem Candidate.generate_standard_accepted_hostile :
    hostileQuestion.isExecutable = true ∧ hostileQuestion.filters ≠ [] ∧ ∃ candidate,
      Candidate.generate {} Registry.standard hostileQuestion hostileContext none = .ok candidate ∧
        check Registry.standard.schema candidate = .ok () := by
  have hm : Registry.standard.metrics[0] ∈ Registry.standard.metrics := List.getElem_mem _
  exact ⟨by decide, by decide, generate_standard_accepted (by decide) rfl hm (by decide)
    (fun _ => rfl) {} hostileContext none⟩

end BankQuery
