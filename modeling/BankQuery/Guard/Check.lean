import BankQuery.Candidate.Basic
import BankQuery.Guard.Screen
import BankQuery.Registry.Schema
import BankQuery.Sorting
import BankQuery.Sql.Grammar.Statement
import BankQuery.Text.Quoted

/-!
# Checking statements

`check` lets a candidate through or says why not. A statement is let through if it is one plain
selection from known tables, names known columns only, calls nothing but aggregates, holds no value
of its own, has a bound value for each placeholder, and is bounded in time or a ranking with a
limit.

The steps stand in their order: of two faults the earlier step's is the one that is told.
-/

namespace BankQuery.Guard

open Sql

def demand (condition : Bool) (rejection : Rejection) : Except Rejection Unit :=
  if condition then .ok () else .error rejection

/-- No separator, no comment and no forbidden word, wherever it stands. -/
def checkText (text : String) : Except Rejection Unit :=
  if hasSeparator text then .error .multipleStatements
  else if holds text "--" || holds text "/*" then .error .comment
  else
    match forbiddenPattern.find text with
    | some m => .error (.forbiddenKeyword (Text.upper (String.ofList m.text)))
    | none => .ok ()

def checkReferences (schema : Schema) : List String → Except Rejection Unit
  | [] => .ok ()
  | t :: rest =>
    if (schema.table? t).isSome then checkReferences schema rest else .error (.unknownTable t)

/-- The one query that a text is. What a parser has to say of a text that it cannot read is left
out: one sentence stands for it. -/
def queryOf (text : String) : Except Rejection Query :=
  match statements? text with
  | none => .error (.unparseable "not a statement")
  | some [some query] => .ok query
  | some [none] => .error .notASelect
  | some _ => .error .multipleStatements

def selectOf (query : Query) : Except Rejection Select :=
  if !query.ctes.isEmpty then .error .commonTableExpression
  else if !query.locks.isEmpty then .error (.forbiddenKeyword "FOR UPDATE")
  else
    match query.body with
    | .select select =>
      if select.into.isSome then .error (.forbiddenKeyword "INTO") else .ok select
    | .combined _ _ _ => .error .setOperation
    | .query _ => .error .subquery
    | .values _ _ _ => .error .notASelect
    | .table _ => .error .notASelect

def tableOf (schema : Schema) : Relation → Except Rejection Table
  | .table name _ _ _ _ =>
    match schema.table? ((name.getLast?.map Name.text).getD "") with
    | some table => .ok table
    | none => .error (.unknownTable (printNames name))
  | .derived _ _ _ => .error .subquery
  | relation => .error (.unknownTable relation.print)

def relationsOf (select : Select) : List Relation :=
  select.sources.flatMap fun s => s.relation :: s.joins.map Join.relation

def tablesOf (schema : Schema) (select : Select) : Except Rejection (Table × List Table) := do
  match ← (relationsOf select).mapM (tableOf schema) with
  | [] => .error .notASelect
  | primary :: others => .ok (primary, others)

def isStar : Expr → Bool
  | .star _ => true
  | _ => false

def allowedFunctions : List String := ["AVG", "SUM", "MIN", "MAX", "COUNT"]

def isKnownPath (tables : List Table) : List Name → Bool
  | [table, column] =>
    tables.any fun t => Text.sameAscii t.name table.text && t.hasColumn column.text
  | _ => false

/-- What an expression may be, whatever stands inside it. -/
def checkExpr (tables : List Table) : Expr → Except Rejection Unit
  | .column name => demand (tables.any (·.hasColumn name.text)) (.unknownColumn name.text)
  | .path names =>
    demand (isKnownPath tables names) (.unknownColumn (".".intercalate (names.map Name.text)))
  | .call name _ _ =>
    let function := Text.upper (printNames name)
    demand (allowedFunctions.contains function) (.disallowedFunction function)
  | .literal value => .error (.inlineLiteral value.print)
  | .typed _ text => .error (.inlineLiteral text)
  | .interval value qualifier => .error (.inlineLiteral (Expr.interval value qualifier).print)
  | .subquery _ => .error .subquery
  | .inSubquery _ _ _ => .error .subquery
  | .exists _ _ => .error .subquery
  | _ => .ok ()

def checkExprs (tables : List Table) : List Expr → Except Rejection Unit
  | [] => .ok ()
  | e :: rest => do
    checkExpr tables e
    checkExprs tables rest

def placeholder? : Expr → Option String
  | .placeholder name => some name
  | _ => none

def sortedNames (names : List String) : List String :=
  dropRepeats (· == ·) (sortBy (fun a b => decide (a < b)) names)

/-- Each placeholder is bound once, and nothing else is. -/
def checkPlaceholders (used bound : List String) : Except Rejection Unit :=
  let used := sortedNames used
  let names := sortedNames bound
  let missing := used.filter (!names.contains ·)
  let idle := names.filter (!used.contains ·)
  if names.length ≠ bound.length then .error (.placeholderMismatch "duplicate parameter name")
  else
    demand (missing.isEmpty && idle.isEmpty) (.placeholderMismatch
      ("unbound " ++ Text.quotedList missing ++ ", unused " ++ Text.quotedList idle))

/-- The conditions that all hold where `e` does. -/
def conjuncts : Expr → List Expr
  | .binary .and left right => conjuncts left ++ conjuncts right
  | .nested inner => conjuncts inner
  | e => [e]

def isColumn (column : String) : Expr → Bool
  | .column name => Text.sameAscii name.text column
  | .path names =>
    match names.getLast? with
    | some name => Text.sameAscii name.text column
    | none => false
  | _ => false

def isPlaceholder (e : Expr) : Bool := (placeholder? e).isSome

/-- Whether a condition holds the column between bound values, or to one side of one. -/
def isTimeBound (column : String) : Expr → Bool
  | .between false value low high =>
    isColumn column value && isPlaceholder low && isPlaceholder high
  | .binary (.compare _) left right =>
    (isColumn column left && isPlaceholder right) || (isPlaceholder left && isColumn column right)
  | _ => false

def isTimeBounded (column : String) (select : Select) : Bool :=
  match select.condition with
  | some condition => (conjuncts condition).any (isTimeBound column)
  | none => false

/-- Whether the candidate is a ranking whose length is said, and the query has a limit. -/
def isLimitedRanking (c : Candidate) (query : Query) : Bool :=
  c.mode == .ranking && c.topN.isSome && query.limit.isSome

def checkQuery (schema : Schema) (c : Candidate) (query : Query) : Except Rejection Unit := do
  let select ← selectOf query
  let (primary, others) ← tablesOf schema select
  demand (!select.items.any isStar) (.unknownColumn "*")
  checkExprs (primary :: others) query.expressions
  checkPlaceholders (query.expressions.filterMap placeholder?) (c.parameters.map Parameter.name)
  demand (isTimeBounded primary.timeColumn select || isLimitedRanking c query)
    (.missingTimePredicate primary.timeColumn)

/-- Whether a candidate may be run, or why not. -/
def check (schema : Schema) (c : Candidate) : Except Rejection Unit := do
  checkText c.statement
  checkReferences schema c.tables
  checkQuery schema c (← queryOf c.statement)

end BankQuery.Guard
