import BankQuery.Proofs.Guard.Frame
import Mathlib.Data.List.Basic

/-!
# Names in a statement that is let through

The names that a statement gives to columns and to the relations that it reads, against the names of
the schema. A column that is an expression is one of a table that is read; the columns of a `USING`
list are no expressions, and `check_columnNames` says that it is these which need not be known.
Fields of composite values, aliases and the names of windows are no columns.

`check_relations` says that a relation is known by the last part of its name, and that it is the
known table itself just if there is no other part and there are no arguments.
-/

namespace BankQuery.Sql

def Expr.columnName? : Expr → Option Name
  | .column name => some name
  | .path names => names.getLast?
  | _ => none

def JoinRule.columns : JoinRule → List Name
  | .sharing columns => columns
  | _ => []

def Relation.turnedColumns : Relation → List Name
  | .pivot _ _ column _ _ => column.getLast?.toList
  | .unpivot _ _ _ columns _ => columns
  | _ => []

/-- The names of columns that a part holds without an expression for them. -/
def Part.bareColumns : Part → List Name
  | .join j => j.rule.columns
  | .relation r => r.turnedColumns
  | _ => []

/-- The names of columns that a part holds, those of the parts inside it left out. -/
def Part.columnNames : Part → List Name
  | .expr e => e.columnName?.toList
  | part => part.bareColumns

def Query.columnNames (q : Query) : List Name := q.parts.flatMap Part.columnNames

def Query.bareColumns (q : Query) : List Name := q.parts.flatMap Part.bareColumns

theorem Part.columnNames_of_not_expr {p : Part} (h : p.isExpr = false) :
    p.columnNames = p.bareColumns := by
  cases p with
  | expr e => cases h
  | _ => rfl

/-- A name of a column is an expression or a bare one. -/
theorem Query.mem_columnNames_iff {q : Query} {n : Name} :
    n ∈ q.columnNames ↔ (∃ e ∈ q.expressions, n ∈ e.columnName?) ∨ n ∈ q.bareColumns := by
  rw [Query.columnNames, Query.bareColumns, Query.expressions_eq]
  simp only [List.mem_flatMap, List.mem_filterMap]
  constructor
  · rintro ⟨p, hp, hn⟩
    cases hx : p.isExpr with
    | false => exact .inr ⟨p, hp, Part.columnNames_of_not_expr hx ▸ hn⟩
    | true =>
      cases p with
      | expr e => exact .inl ⟨e, ⟨_, hp, rfl⟩, Option.mem_toList.mp hn⟩
      | _ => cases hx
  · rintro (⟨e, ⟨p, hp, he⟩, hn⟩ | ⟨p, hp, hn⟩)
    · cases p with
      | expr _ =>
        cases he
        exact ⟨_, hp, Option.mem_toList.mpr hn⟩
      | _ => cases he
    · refine ⟨p, hp, ?_⟩
      cases p with
      | expr _ => cases hn
      | _ => exact hn

/-- Tables read without a turn have bare columns in the rules of their joins only. -/
theorem Source.bareColumns_frame {s : Source} (hr : s.relation.isTable = true)
    (hj : ∀ j ∈ s.joins, j.relation.isTable = true) :
    s.frame.flatMap Part.bareColumns = s.joins.flatMap fun j => j.rule.columns := by
  have htable : ∀ r : Relation, r.isTable = true → Part.bareColumns (.relation r) = [] := by
    intro r ht
    cases r with
    | table _ _ _ _ _ => rfl
    | _ => cases ht
  rw [Source.frame, List.flatMap_cons, htable _ hr, List.nil_append, List.flatMap_assoc]
  refine List.flatMap_congr fun j h => ?_
  rw [Join.frame, List.flatMap_cons, List.flatMap_singleton, htable _ (hj j h), List.append_nil]
  rfl

end BankQuery.Sql

namespace BankQuery.Guard

open Sql

variable {schema : Schema} {c : Candidate} {query : Query} {select : Select} {primary : Table}
  {others : List Table}

def isColumnOf (tables : List Table) (name : Name) : Bool := tables.any (·.hasColumn name.text)

theorem isColumnOf_of_checkExpr {tables : List Table} {e : Expr} (h : checkExpr tables e = .ok ())
    {n : Name} (hn : n ∈ e.columnName?) : isColumnOf tables n = true := by
  cases e with
  | column name =>
    rw [checkExpr, demand_eq_ok_iff] at h
    cases hn
    exact h
  | path names =>
    rw [checkExpr, demand_eq_ok_iff] at h
    unfold isKnownPath at h
    split at h
    · obtain ⟨t, ht, hs⟩ := List.any_eq_true.mp h
      rw [Bool.and_eq_true] at hs
      cases hn
      exact List.any_eq_true.mpr ⟨t, ht, hs.2⟩
    · cases h
  | _ => cases hn

theorem tableOf_eq_ok {r : Relation} {table : Table} (h : tableOf schema r = .ok table) :
    table ∈ schema.tables ∧ ∃ name arguments operands asName hints,
      r = .table name arguments operands asName hints ∧
        Text.sameAscii table.name ((name.getLast?.map Name.text).getD "") = true := by
  obtain ⟨name, arguments, operands, asName, hints, hr, ht⟩ := tableOf_eq_ok_iff.mp h
  rw [Schema.table?] at ht
  have hs := List.find?_some ht
  exact ⟨List.mem_of_find?_eq_some ht, name, arguments, operands, asName, hints, hr, hs⟩

theorem Passes.mem_tables (h : Passes schema c query select primary others) :
    ∀ t ∈ primary :: others, t ∈ schema.tables := by
  intro t ht
  obtain ⟨r, -, hr⟩ := mem_of_mapM_eq_ok h.tables t ht
  exact (tableOf_eq_ok hr).1

theorem Passes.bareColumns_eq (h : Passes schema c query select primary others)
    (ha : ∀ e ∈ query.expressions, e.isArrayOf = false) :
    query.bareColumns =
      select.sources.flatMap fun s => s.joins.flatMap fun j => j.rule.columns := by
  rw [Query.bareColumns, flatMap_eq_flatMap_frameOf (fun _ => rfl), h.frame_eq ha,
    List.flatMap_cons, List.flatMap_assoc]
  refine List.flatMap_congr fun s hs => ?_
  obtain ⟨hrelation, hjoins⟩ := h.isTable_of_mem_sources hs
  exact Source.bareColumns_frame hrelation hjoins

/-- A column that is an expression of a statement that is let through is one of a table that is
read. So all columns are if the bare ones are, and where no query stands inside the selection these
are the members of the `USING` lists. -/
theorem check_columnNames (schema : Schema) (c : Candidate) (h : check schema c = .ok ()) :
    ∃ query select tables, statements? c.statement = some [some query] ∧
      query.body = .select select ∧ (relationsOf select).mapM (tableOf schema) = .ok tables ∧
      (∀ t ∈ tables, t ∈ schema.tables) ∧
      (∀ e ∈ query.expressions, ∀ n ∈ e.columnName?, isColumnOf tables n = true) ∧
      ((∀ n ∈ query.columnNames, isColumnOf tables n = true) ↔
        ∀ n ∈ query.bareColumns, isColumnOf tables n = true) ∧
      ((∀ e ∈ query.expressions, e.isArrayOf = false) → query.bareColumns =
        select.sources.flatMap fun s => s.joins.flatMap fun j => j.rule.columns) := by
  obtain ⟨-, -, query, hq, select, primary, others, hp⟩ := check_eq_ok_iff.mp h
  have hexpr : ∀ e ∈ query.expressions, ∀ n ∈ e.columnName?,
      isColumnOf (primary :: others) n = true :=
    fun e he _ hn => isColumnOf_of_checkExpr (hp.exprs e he) hn
  refine ⟨query, select, primary :: others, hq, hp.body, hp.tables, hp.mem_tables, hexpr,
    ⟨fun hall n hn => hall n (Query.mem_columnNames_iff.mpr (.inr hn)), fun hbare n hn => ?_⟩,
    hp.bareColumns_eq⟩
  rcases Query.mem_columnNames_iff.mp hn with ⟨e, he, hn⟩ | hn
  · exact hexpr e he n hn
  · exact hbare n hn

theorem check_columnNames_sharing :
    check Registry.standard.schema (candidateOf sharingStatement) = .ok () ∧
    ∃ query select tables, statements? sharingStatement = some [some query] ∧
      query.body = .select select ∧
      (relationsOf select).mapM (tableOf Registry.standard.schema) = .ok tables ∧
      (∀ t ∈ tables, t ∈ Registry.standard.schema.tables) ∧
      (∀ e ∈ query.expressions, ∀ n ∈ e.columnName?, isColumnOf tables n = true) ∧
      ((∀ n ∈ query.columnNames, isColumnOf tables n = true) ↔
        ∀ n ∈ query.bareColumns, isColumnOf tables n = true) ∧
      ((∀ e ∈ query.expressions, e.isArrayOf = false) → query.bareColumns =
        select.sources.flatMap fun s => s.joins.flatMap fun j => j.rule.columns) :=
  ⟨check_sharing,
    check_columnNames Registry.standard.schema (candidateOf sharingStatement) check_sharing⟩

def secretStatement : String :=
  "SELECT monthly_kpis.imor FROM monthly_kpis JOIN segment_kpis USING (secret) " ++
    "WHERE monthly_kpis.period = $1"

/-- A statement that is let through may name a column in a `USING` list that no table has. -/
theorem check_names_unknown_column : ¬ ∀ (schema : Schema) (c : Candidate),
    check schema c = .ok () → ∃ query select tables, statements? c.statement = some [some query] ∧
      query.body = .select select ∧ (relationsOf select).mapM (tableOf schema) = .ok tables ∧
      ∀ n ∈ query.columnNames, isColumnOf tables n = true := by
  intro hall
  have hc : check Registry.standard.schema (candidateOf secretStatement) = .ok () :=
    eq_ok_of_isOk (by decide +kernel)
  have hunknown : (queryOf secretStatement).toOption.map (fun query =>
      query.columnNames.all (isColumnOf Registry.standard.schema.tables)) = some false := by
    decide +kernel
  obtain ⟨query, select, tables, hs, -, ht, hk⟩ := hall _ _ hc
  have hknown : query.columnNames.all (isColumnOf Registry.standard.schema.tables) = true := by
    rw [List.all_eq_true]
    intro n hn
    obtain ⟨t, htable, hcolumn⟩ := List.any_eq_true.mp (hk n hn)
    obtain ⟨r, -, hr⟩ := mem_of_mapM_eq_ok ht t htable
    exact List.any_eq_true.mpr ⟨t, (tableOf_eq_ok hr).1, hcolumn⟩
  rw [eq_of_queryOf hs hunknown] at hknown
  cases hknown

def isBareTable (schema : Schema) : Relation → Bool
  | .table [name] none _ _ _ => schema.tables.any fun t => Text.sameAscii t.name name.text
  | _ => false

theorem isBareTable_iff {name : List Name} {arguments : Option (List (Option Name))}
    {operands : List Expr} {asName : Option TableAlias} {hints : List Expr} {table : Table}
    (ht : table ∈ schema.tables)
    (hs : Text.sameAscii table.name ((name.getLast?.map Name.text).getD "") = true) :
    isBareTable schema (.table name arguments operands asName hints) = true ↔
      name.length = 1 ∧ arguments = none := by
  cases arguments with
  | some _ => simp [isBareTable]
  | none =>
    match name with
    | [] => simp [isBareTable]
    | _ :: _ :: _ => simp [isBareTable]
    | [n] =>
      have hany : (schema.tables.any fun t => Text.sameAscii t.name n.text) = true :=
        List.any_eq_true.mpr ⟨table, ht, hs⟩
      simpa [isBareTable] using hany

/-- What a statement that is let through reads from are relations by name, and the last part of each
name is that of a known table. Such a relation is the known table itself if and only if its name has
no other part and it is given no arguments. -/
theorem check_relations (schema : Schema) (c : Candidate) (h : check schema c = .ok ()) :
    ∃ query select, statements? c.statement = some [some query] ∧ query.body = .select select ∧
      relationsOf select ≠ [] ∧ ∀ r ∈ relationsOf select,
        ∃ name arguments operands asName hints, r = .table name arguments operands asName hints ∧
          (∃ t ∈ schema.tables,
            Text.sameAscii t.name ((name.getLast?.map Name.text).getD "") = true) ∧
          (isBareTable schema r = true ↔ name.length = 1 ∧ arguments = none) := by
  obtain ⟨-, -, query, hq, select, primary, others, hp⟩ := check_eq_ok_iff.mp h
  refine ⟨query, select, hq, hp.body, fun hnil => ?_, fun r hr => ?_⟩
  · obtain ⟨r, hr, -⟩ := mem_of_mapM_eq_ok hp.tables primary List.mem_cons_self
    rw [hnil] at hr
    cases hr
  · obtain ⟨table, -, ht⟩ := exists_of_mapM_eq_ok hp.tables r hr
    obtain ⟨hmem, name, arguments, operands, asName, hints, rfl, hs⟩ := tableOf_eq_ok ht
    exact ⟨name, arguments, operands, asName, hints, rfl, ⟨table, hmem, hs⟩,
      isBareTable_iff hmem hs⟩

theorem check_relations_sharing :
    check Registry.standard.schema (candidateOf sharingStatement) = .ok () ∧
    ∃ query select, statements? sharingStatement = some [some query] ∧
      query.body = .select select ∧ relationsOf select ≠ [] ∧ ∀ r ∈ relationsOf select,
        ∃ name arguments operands asName hints, r = .table name arguments operands asName hints ∧
          (∃ t ∈ Registry.standard.schema.tables,
            Text.sameAscii t.name ((name.getLast?.map Name.text).getD "") = true) ∧
          (isBareTable Registry.standard.schema r = true ↔ name.length = 1 ∧ arguments = none) :=
  ⟨check_sharing,
    check_relations Registry.standard.schema (candidateOf sharingStatement) check_sharing⟩

def foreignStatement : String := "SELECT imor FROM hr.monthly_kpis WHERE period = $1"

/-- A statement that is let through may read a table of another schema, if it has the name of a
known one. -/
theorem check_reads_foreign_table : ¬ ∀ (schema : Schema) (c : Candidate),
    check schema c = .ok () → ∃ query select, statements? c.statement = some [some query] ∧
      query.body = .select select ∧ ∀ r ∈ relationsOf select, isBareTable schema r = true := by
  intro hall
  have hc : check Registry.standard.schema (candidateOf foreignStatement) = .ok () :=
    eq_ok_of_isOk (by decide +kernel)
  have hforeign : (queryOf foreignStatement).toOption.map (fun query =>
      query.select?.all fun select =>
        (relationsOf select).all (isBareTable Registry.standard.schema)) = some false := by
    decide +kernel
  obtain ⟨query, select, hs, hb, hbare⟩ := hall _ _ hc
  have hbares : (relationsOf select).all (isBareTable Registry.standard.schema) = true :=
    List.all_eq_true.mpr hbare
  have hsome : query.select? = some select := by rw [Query.select?, hb]
  have hnot := eq_of_queryOf hs hforeign
  rw [hsome, Option.all_some, hbares] at hnot
  cases hnot

end BankQuery.Guard
