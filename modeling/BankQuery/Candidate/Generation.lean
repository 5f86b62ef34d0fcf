import BankQuery.Candidate.Basic
import BankQuery.Guard.Rejection
import BankQuery.Registry.Basic
import BankQuery.Retrieval.Context
import BankQuery.Sorting

/-!
# Generating candidates

A question becomes one statement, by one template for series and one for rankings. Table and column
names come from the schema; retrieved context can only choose among them, and is left aside after a
rejection. Every value is bound to a numbered placeholder, so that the text of the statement depends
on how many banks and filters there are and not on what they are called.
-/

namespace BankQuery

inductive GenerationFault where
  | incomplete
  | unknownMetric (code : String)
  | noTable
  | noSegmentColumn (table : String)
deriving DecidableEq

def GenerationFault.message : GenerationFault → String
  | .incomplete => "Query spec is missing a metric or a bank"
  | .unknownMetric code => "Metric '" ++ code ++ "' is not registered"
  | .noTable => "No whitelisted table for this query"
  | .noSegmentColumn table => "Table '" ++ table ++ "' has no segment column"

namespace Generation

/-- Places of a ranking that does not say how many it wants. -/
structure Options where
  defaultLimit : UInt32 := 10

def Options.ofLimit (n : UInt32) : Options := ⟨if n = 0 then 1 else n⟩

def placeholder (n : Nat) : String := "$" ++ Nat.repr n

def placeholders (first count : Nat) : String :=
  ", ".intercalate ((List.range count).map fun i => placeholder (first + i))

def numbered (values : List BoundValue) : List Parameter :=
  values.mapIdx fun i v => ⟨placeholder (i + 1), v⟩

/-- Names of tables in the context, those of fitting examples first. -/
def namedTables (c : Context) (q : Question) (m : Metric) : List String :=
  (c.examples.filter fun s => s.meta? "metric" == some m.code && s.meta? "mode" == some q.mode.name)
    |>.filterMap (·.meta? "table")
    |>.append (c.schema.filterMap (·.meta? "table"))

/-- The first table of the context that is in the schema, has the metric, and is broken down by
segment exactly if the question is. -/
def contextTable? (r : Registry) (c : Context) (q : Question) (m : Metric) : Option Table :=
  ((namedTables c q m).filterMap r.schema.table?).find? fun t =>
    t.hasColumn m.column && t.segmentColumn.isSome == !q.filters.isEmpty

/-- The first column the context gives for the metric that the table has. -/
def contextColumn? (c : Context) (m : Metric) (t : Table) : Option String :=
  ((c.metrics.filter fun s => s.meta? "metric" == some m.code).filterMap (·.meta? "column")).find?
    t.hasColumn

def defaultTable? (r : Registry) (q : Question) : Option Table :=
  if q.filters.isEmpty then r.schema.primary? else r.schema.segments?

def source? (r : Registry) (c : Context) (q : Question) (m : Metric) (afterRejection : Bool) :
    Option (Table × String) :=
  if afterRejection then (defaultTable? r q).map fun t => (t, m.column)
  else
    ((contextTable? r c q m).or (defaultTable? r q)).map fun t =>
      (t, (contextColumn? c m t).getD m.column)

/-- The column that breaks the table down, when the question asks for segments. -/
def segmentColumn (t : Table) (q : Question) : Except GenerationFault (Option String) :=
  if q.filters.isEmpty then .ok none
  else
    match t.segmentColumn with
    | some s => .ok (some s)
    | none => .error (.noSegmentColumn t.name)

/-- The shape of a statement: what it depends on besides the names of the schema. -/
structure Shape where
  mode : Mode
  order : RankOrder
  banks : Nat
  filters : Nat
  /-- Whether the ranking leaves out the market as a whole. -/
  leavesOutSystem : Bool := false

/-- The value of one column for each bank and month. -/
def seriesText (t : Table) (column : String) (segment : Option String) (s : Shape) : String :=
  let bankTest :=
    if s.mode = .single ∧ s.banks = 1 then t.bankColumn ++ " = " ++ placeholder 1
    else t.bankColumn ++ " IN (" ++ placeholders 1 s.banks ++ ")"
  let (selected, tested, ordered) := match segment with
    | some g =>
      (", " ++ g ++ " AS segment",
        " AND " ++ g ++ " IN (" ++ placeholders (s.banks + 1) s.filters ++ ")",
        ", " ++ g)
    | none => ("", "", "")
  let dates := s.banks + (if segment.isSome then s.filters else 0)
  "SELECT " ++ t.bankColumn ++ " AS bank, " ++ t.timeColumn ++ " AS period" ++ selected ++ ", " ++
    column ++ " AS value FROM " ++ t.name ++ " WHERE " ++ bankTest ++ tested ++ " AND " ++
    t.timeColumn ++ " BETWEEN " ++ placeholder (dates + 1) ++ " AND " ++ placeholder (dates + 2) ++
    " ORDER BY " ++ t.bankColumn ++ ordered ++ ", " ++ t.timeColumn

/-- One row for each bank: the average over the months, in order, and at most as many as asked. -/
def rankingText (t : Table) (column : String) (segment : Option String) (s : Shape) : String :=
  let bankTest :=
    if s.banks ≠ 0 then " AND " ++ t.bankColumn ++ " IN (" ++ placeholders 3 s.banks ++ ")"
    else if s.leavesOutSystem then " AND " ++ t.bankColumn ++ " <> " ++ placeholder 3
    else ""
  let next := 3 + (if s.banks ≠ 0 then s.banks else if s.leavesOutSystem then 1 else 0)
  let (segmentTest, limit) := match segment with
    | some g => (" AND " ++ g ++ " IN (" ++ placeholders next s.filters ++ ")", next + s.filters)
    | none => ("", next)
  "SELECT " ++ t.bankColumn ++ " AS bank, MAX(" ++ t.timeColumn ++ ") AS period, AVG(" ++ column ++
    ") AS value FROM " ++ t.name ++ " WHERE " ++ t.timeColumn ++ " BETWEEN $1 AND $2" ++ bankTest ++
    segmentTest ++ " GROUP BY " ++ t.bankColumn ++ " ORDER BY AVG(" ++ column ++ ") " ++
    s.order.keyword ++ " NULLS LAST, " ++ t.bankColumn ++ " LIMIT " ++ placeholder limit

/-- The market as a whole, which takes no part in a ranking of all banks. -/
def leftOut? (r : Registry) (q : Question) : Option String :=
  if q.banks.isEmpty then r.systemBank?.map Bank.id else none

def shape (r : Registry) (q : Question) : Shape :=
  { mode := q.mode, order := q.order, banks := q.banks.length, filters := q.filters.length,
    leavesOutSystem := (leftOut? r q).isSome }

def text (t : Table) (column : String) (segment : Option String) (s : Shape) : String :=
  match s.mode with
  | .ranking => rankingText t column segment s
  | .single | .compare => seriesText t column segment s

def values (options : Options) (r : Registry) (q : Question) : List BoundValue :=
  let dates := [.date q.range.start, .date q.range.stop]
  let banks := q.banks.map .text
  let filters := q.filters.map .text
  match q.mode with
  | .ranking =>
    dates ++ banks ++ (leftOut? r q).toList.map .text ++ filters ++
      [.int (Int64.ofNat (q.topN.getD options.defaultLimit).toNat)]
  | .single | .compare => banks ++ filters ++ dates

def namedColumns (t : Table) (column : String) (segment : Option String) : List String :=
  dropRepeats (· == ·)
    (sortBy (fun a b => a < b) ([t.bankColumn, t.timeColumn, column] ++ segment.toList))

end Generation

/-- The candidate for a question. After a rejection the context is not consulted. -/
def Candidate.generate (options : Generation.Options) (r : Registry) (q : Question) (c : Context)
    (rejection : Option Rejection) : Except GenerationFault Candidate :=
  open Generation in
  if !q.isExecutable then .error .incomplete
  else
    let code := q.metric.getD ""
    match r.metric? code with
    | none => .error (.unknownMetric code)
    | some m =>
      match source? r c q m rejection.isSome with
      | none => .error .noTable
      | some (t, column) =>
        match segmentColumn t q with
        | .error fault => .error fault
        | .ok segment =>
          .ok { statement := text t column segment (shape r q)
                parameters := numbered (values options r q)
                tables := [t.name]
                columns := namedColumns t column segment
                mode := q.mode
                topN := q.topN
                attempt := if rejection.isSome then 2 else 1 }

end BankQuery
