import BankQuery.Proofs.Candidate.Serving

/-!
# Templates of statements

A template is a list of slots: words that are always the same, places for the names of one table and
of one column, and numbered placeholders. It depends on the shape of a question and on nothing else.

`Candidate.generate_chosen` says that every statement is such a template, filled with the names of a
table of the schema and with a column of it or of the metric. What has been retrieved may choose the
table and the column, within bounds, and writes nothing; after a rejection it does not even choose.
-/

namespace BankQuery

namespace Generation

inductive Slot where
  | words (text : String)
  | table
  | bank
  | time
  | segment
  | column
  | place (number : Nat)

def Slot.fill (t : Table) (column : String) : Slot → String
  | .words text => text
  | .table => t.name
  | .bank => t.bankColumn
  | .time => t.timeColumn
  | .segment => t.segmentColumn.getD ""
  | .column => column
  | .place n => placeholder n

def filled (t : Table) (column : String) : List Slot → String
  | [] => ""
  | slot :: slots => slot.fill t column ++ filled t column slots

def amongPlaces (tested : Slot) (first count : Nat) : List Slot :=
  tested :: .words " IN (" ::
    ((List.range' first count).map Slot.place).intersperse (.words ", ") ++ [.words ")"]

/-- Slots that stand in a statement only when it asks for segments. -/
def whenSegmented (s : Shape) (slots : List Slot) : List Slot := if s.filters = 0 then [] else slots

def seriesTemplate (s : Shape) : List Slot :=
  [.words "SELECT ", .bank, .words " AS bank, ", .time, .words " AS period"] ++
    whenSegmented s [.words ", ", .segment, .words " AS segment"] ++
    [.words ", ", .column, .words " AS value FROM ", .table, .words " WHERE "] ++
    (if s.mode = .single ∧ s.banks = 1 then [.bank, .words " = ", .place 1]
      else amongPlaces .bank 1 s.banks) ++
    whenSegmented s (.words " AND " :: amongPlaces .segment (s.banks + 1) s.filters) ++
    [.words " AND ", .time, .words " BETWEEN ", .place (s.banks + s.filters + 1), .words " AND ",
      .place (s.banks + s.filters + 2), .words " ORDER BY ", .bank] ++
    whenSegmented s [.words ", ", .segment] ++ [.words ", ", .time]

def rankingTemplate (s : Shape) : List Slot :=
  let next := 3 + if s.banks ≠ 0 then s.banks else if s.leavesOutSystem then 1 else 0
  [.words "SELECT ", .bank, .words " AS bank, MAX(", .time, .words ") AS period, AVG(", .column,
      .words ") AS value FROM ", .table, .words " WHERE ", .time, .words " BETWEEN ", .place 1,
      .words " AND ", .place 2] ++
    (if s.banks ≠ 0 then .words " AND " :: amongPlaces .bank 3 s.banks
      else if s.leavesOutSystem then [.words " AND ", .bank, .words " <> ", .place 3] else []) ++
    whenSegmented s (.words " AND " :: amongPlaces .segment next s.filters) ++
    [.words " GROUP BY ", .bank, .words " ORDER BY AVG(", .column,
      .words (") " ++ s.order.keyword ++ " NULLS LAST, "), .bank, .words " LIMIT ",
      .place (next + s.filters)]

def template (s : Shape) : List Slot :=
  match s.mode with
  | .ranking => rankingTemplate s
  | .single | .compare => seriesTemplate s

section Filling

variable {t : Table} {column : String} {s : Shape} {segment : Option String}

theorem filled_append (xs ys : List Slot) :
    filled t column (xs ++ ys) = filled t column xs ++ filled t column ys := by
  induction xs with
  | nil => exact String.empty_append.symm
  | cons x xs ih => rw [List.cons_append, filled, filled, ih, String.append_assoc]

theorem filled_intersperse (separator : Slot) (slots : List Slot) :
    filled t column (slots.intersperse separator) =
      (separator.fill t column).intercalate (slots.map (Slot.fill t column)) := by
  induction slots with
  | nil => rfl
  | cons x xs ih =>
    cases xs with
    | nil => simp [filled]
    | cons y ys =>
      rw [List.intersperse_cons_cons, filled, filled, ih, List.map_cons, List.map_cons,
        List.map_cons, String.intercalate_cons_cons, String.append_assoc]

theorem filled_amongPlaces (slot : Slot) (first count : Nat) :
    filled t column (amongPlaces slot first count) =
      slot.fill t column ++ " IN (" ++ placeholders first count ++ ")" := by
  have hplaces : ((List.range' first count).map Slot.place).map (Slot.fill t column) =
      (List.range count).map fun i => placeholder (first + i) := by
    rw [List.range'_eq_map_range, List.map_map, List.map_map]
    rfl
  simp only [amongPlaces, List.cons_append, filled, filled_append, filled_intersperse, hplaces,
    String.append_empty, String.append_assoc]
  rfl

theorem filled_seriesTemplate (hg : s.filters ≠ 0 → ∃ g, t.segmentColumn = some g) :
    filled t column (seriesTemplate s) =
      seriesText t column (if s.filters = 0 then none else t.segmentColumn) s := by
  have htest : filled t column (if s.mode = .single ∧ s.banks = 1 then
      [.bank, .words " = ", .place 1] else amongPlaces .bank 1 s.banks) =
        if s.mode = .single ∧ s.banks = 1 then t.bankColumn ++ " = " ++ placeholder 1
        else t.bankColumn ++ " IN (" ++ placeholders 1 s.banks ++ ")" := by
    split
    · simp only [filled, Slot.fill, String.append_empty, String.append_assoc]
    · exact filled_amongPlaces .bank 1 s.banks
  unfold seriesTemplate seriesText
  by_cases hf : s.filters = 0
  · simp only [filled_append, htest, whenSegmented, if_pos hf, filled, Slot.fill]
    simp only [hf, Option.isSome_none, Bool.false_eq_true, if_false, Nat.add_zero,
      String.append_empty, String.append_assoc]
  · obtain ⟨g, hg⟩ := hg hf
    simp only [filled_append, htest, whenSegmented, if_neg hf, filled, Slot.fill, hg,
      filled_amongPlaces, Option.getD_some]
    simp only [Option.isSome_some, if_true, String.append_empty, String.append_assoc]

theorem filled_rankingTemplate (hg : s.filters ≠ 0 → ∃ g, t.segmentColumn = some g) :
    filled t column (rankingTemplate s) =
      rankingText t column (if s.filters = 0 then none else t.segmentColumn) s := by
  have htest : filled t column (if s.banks ≠ 0 then .words " AND " :: amongPlaces .bank 3 s.banks
      else if s.leavesOutSystem then [.words " AND ", .bank, .words " <> ", .place 3] else []) =
        if s.banks ≠ 0 then " AND " ++ t.bankColumn ++ " IN (" ++ placeholders 3 s.banks ++ ")"
        else if s.leavesOutSystem then " AND " ++ t.bankColumn ++ " <> " ++ placeholder 3
        else "" := by
    split
    · simp only [filled, filled_amongPlaces, Slot.fill, String.append_assoc]
    · split <;> simp only [filled, Slot.fill, String.append_empty, String.append_assoc]
  have hbetween : " BETWEEN $1 AND $2" =
      " BETWEEN " ++ (placeholder 1 ++ (" AND " ++ placeholder 2)) := rfl
  unfold rankingTemplate rankingText
  by_cases hf : s.filters = 0
  · simp only [filled_append, htest, whenSegmented, if_pos hf, filled, Slot.fill]
    simp only [hf, hbetween, Nat.add_zero, String.append_empty, String.append_assoc]
  · obtain ⟨g, hg⟩ := hg hf
    simp only [filled_append, htest, whenSegmented, if_neg hf, filled, Slot.fill, hg,
      filled_amongPlaces, Option.getD_some]
    simp only [hbetween, String.append_empty, String.append_assoc]

/-- A statement is the template of its shape, filled with names. -/
theorem filled_template (hg : s.filters ≠ 0 → ∃ g, t.segmentColumn = some g) :
    filled t column (template s) =
      text t column (if s.filters = 0 then none else t.segmentColumn) s := by
  unfold template text
  cases s.mode with
  | ranking => exact filled_rankingTemplate hg
  | single | compare => exact filled_seriesTemplate hg

end Filling

section Choice

variable {r : Registry} {q : Question} {c : Context} {m : Metric} {t : Table} {column : String}

theorem mem_tables_of_defaultTable? (h : defaultTable? r q = some t) : t ∈ r.schema.tables := by
  unfold defaultTable? at h
  split at h
  · exact List.mem_of_find?_eq_some h
  · obtain ⟨name, -, hn⟩ := Option.bind_eq_some_iff.mp h
    exact List.mem_of_find?_eq_some hn

/-- Where the numbers are read: in the table of the question or in one that fits it, in the column
of the metric or in another one of the table. -/
theorem mem_tables_of_source? {afterRejection : Bool}
    (h : source? r c q m afterRejection = some (t, column)) : t ∈ r.schema.tables ∧
      (column = m.column ∨ t.hasColumn column = true) ∧
      (defaultTable? r q = some t ∨
        t.hasColumn m.column = true ∧ (t.segmentColumn.isSome = true ↔ q.filters ≠ [])) := by
  unfold source? at h
  cases afterRejection with
  | true =>
    obtain ⟨d, hd, he⟩ := Option.map_eq_some_iff.mp h
    cases he
    exact ⟨mem_tables_of_defaultTable? hd, .inl rfl, .inl hd⟩
  | false =>
    obtain ⟨d, hd, he⟩ := Option.map_eq_some_iff.mp h
    cases he
    have hcolumn : (contextColumn? c m t).getD m.column = m.column ∨
        t.hasColumn ((contextColumn? c m t).getD m.column) = true := by
      cases hc : contextColumn? c m t with
      | none => exact .inl rfl
      | some column => exact .inr (List.find?_some hc)
    cases ht : contextTable? r c q m with
    | none =>
      rw [ht, Option.none_or] at hd
      exact ⟨mem_tables_of_defaultTable? hd, hcolumn, .inl hd⟩
    | some d =>
      rw [ht, Option.some_or] at hd
      cases hd
      obtain ⟨name, hn, hfits⟩ := contextTable?_eq_some ht
      exact ⟨List.mem_of_find?_eq_some hn, hcolumn, .inr hfits⟩

theorem exists_of_plan_eq_ok {afterRejection : Bool} {p : Plan}
    (h : plan r q c afterRejection = .ok p) : q.isExecutable = true ∧
      ∃ m, r.metric? (q.metric.getD "") = some m ∧
        source? r c q m afterRejection = some (p.table, p.column) ∧
        segmentColumn p.table q = .ok p.segment := by
  unfold plan at h
  split at h
  · cases h
  · rename_i he
    refine ⟨by simpa using he, ?_⟩
    cases hm : r.metric? (q.metric.getD "") with
    | none =>
      rw [hm] at h
      cases h
    | some m =>
      rw [hm] at h
      cases hs : source? r c q m afterRejection with
      | none => simp only [hs, reduceCtorEq] at h
      | some source =>
        cases hg : segmentColumn source.1 q with
        | error fault => simp only [hs, hg, Except.map, reduceCtorEq] at h
        | ok segment =>
          simp only [hs, hg, Except.map, Except.ok.injEq] at h
          subst h
          exact ⟨m, rfl, hs, hg⟩

theorem eq_of_segmentColumn {segment : Option String} (h : segmentColumn t q = .ok segment) :
    segment = (if q.filters.length = 0 then none else t.segmentColumn) ∧
      (q.filters.length ≠ 0 → ∃ g, t.segmentColumn = some g) := by
  obtain ⟨hsome, hmem⟩ := mem_segmentColumn h
  simp only [List.length_eq_zero_iff]
  refine ⟨Option.ext fun g => (hmem g).trans ?_, fun hne => ?_⟩
  · split <;> simp [*]
  · obtain ⟨g, hg⟩ : ∃ g, segment = some g :=
      Option.isSome_iff_exists.mp (by simpa [hsome] using hne)
    exact ⟨g, ((hmem g).mp hg).2⟩

end Choice

end Generation

open Generation in
/-- Every statement is the template of its shape, filled with the names of one table of the schema
and with a column of it or of the metric; the context may take the place of the table of the
question only by another one that has the metric and has segments as the question does. After a
rejection the context is left aside: there is the candidate, or the fault, that there is without
any. -/
theorem Candidate.generate_chosen (options : Options) (r : Registry) (q : Question) (c : Context)
    (rejection : Option Rejection) :
    (∀ a, generate options r q c rejection = .ok a →
      ∃ m t column, r.metric? (q.metric.getD "") = some m ∧ t ∈ r.schema.tables ∧
        a.tables = [t.name] ∧
        (column = m.column ∨ ∃ k ∈ t.columns, Text.sameAscii k.name column = true) ∧
        (q.filters ≠ [] → t.segmentColumn.isSome = true) ∧
        a.statement = filled t column (template (shape r q)) ∧
        (defaultTable? r q = some t ∨
          t.hasColumn m.column = true ∧ (t.segmentColumn.isSome = true ↔ q.filters ≠ []))) ∧
      ∀ reason, generate options r q c (some reason) =
        (generate options r q Context.empty none).map fun a => { a with attempt := 2 } := by
  constructor
  · intro a h
    rw [generate_eq] at h
    cases hp : plan r q c rejection.isSome with
    | error fault =>
      rw [hp] at h
      cases h
    | ok p =>
      rw [hp] at h
      cases h
      obtain ⟨-, m, hm, hs, hg⟩ := exists_of_plan_eq_ok hp
      obtain ⟨ht, hc, hd⟩ := mem_tables_of_source? hs
      obtain ⟨hsegment, hsome⟩ := eq_of_segmentColumn hg
      refine ⟨m, p.table, p.column, hm, ht, rfl, ?_, fun hne => ?_, ?_, hd⟩
      · exact hc.imp_right List.any_eq_true.mp
      · obtain ⟨g, hg⟩ := hsome fun h => hne (List.length_eq_zero_iff.mp h)
        rw [hg]
        rfl
      · have hfilled : filled p.table p.column (template (shape r q)) =
            text p.table p.column (if q.filters.length = 0 then none else p.table.segmentColumn)
              (shape r q) := filled_template hsome
        rw [hfilled, ← hsegment]
        rfl
  · intro reason
    have hplan : plan r q c true = plan r q Context.empty false := rfl
    rw [generate_eq, generate_eq, Option.isSome_some, Option.isSome_none, hplan]
    cases plan r q Context.empty false with
    | error fault => rfl
    | ok p => rfl

/-- Snippets that name tables and columns that do not exist, one that does in another letter case,
and a statement. -/
def insistentContext : Context where
  schema := [
    { text := "DROP TABLE monthly_kpis", score := 1, metadata := [("table", "monthly_kpis; --")] }]
  metrics := [
    { text := "", score := 1, metadata := [("metric", "IMOR"), ("column", "imor FROM salaries")] },
    { text := "", score := 1, metadata := [("metric", "IMOR"), ("column", "PERIOD")] }]
  examples := [
    { text := "", score := 1,
      metadata := [("metric", "IMOR"), ("mode", "compare"), ("table", "SEGMENT_KPIS")] }]

theorem Candidate.generate_chosen_insistent :
    ∃ a, generate {} Registry.standard hostileQuestion insistentContext none = .ok a ∧
      ∃ m t column, Registry.standard.metric? "imor" = some m ∧
        t ∈ Registry.standard.schema.tables ∧ a.tables = [t.name] ∧
        (column = m.column ∨ ∃ k ∈ t.columns, Text.sameAscii k.name column = true) ∧
        t.segmentColumn.isSome = true ∧
        a.statement =
          Generation.filled t column (Generation.template
            (Generation.shape Registry.standard hostileQuestion)) := by
  have hok : (generate {} Registry.standard hostileQuestion insistentContext none).isOk = true := by
    decide +kernel
  cases ha : generate {} Registry.standard hostileQuestion insistentContext none with
  | error fault =>
    rw [ha] at hok
    cases hok
  | ok a =>
    obtain ⟨m, t, column, hm, ht, htables, hcolumn, hsegment, hstatement, -⟩ :=
      (generate_chosen {} Registry.standard hostileQuestion insistentContext none).1 a ha
    exact ⟨a, rfl, m, t, column, hm, ht, htables, hcolumn, hsegment (by decide), hstatement⟩

end BankQuery
