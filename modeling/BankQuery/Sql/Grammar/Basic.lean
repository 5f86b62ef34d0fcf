import BankQuery.Sql.Parser
import BankQuery.Sql.Tree

/-!
# Forms that all parts of a statement share

A `Grammar` holds the readers that refer to each other. The forms of a statement are written as
functions of the grammar for what stands inside them, and the whole is tied together level by level
at the end.

An expression is read with a strength: only operators that bind more than that belong to it.
-/

namespace BankQuery.Sql

/-- The readers for what may stand inside a form. -/
structure Grammar where
  /-- An expression of operators that bind more than the given strength. -/
  operation : Nat → Parser Expr
  /-- An operand, with nothing behind it. -/
  operand : Parser Expr
  query : Parser Query
  /-- A query without what orders and limits it. -/
  body : Nat → Parser Body
  source : Parser Source
  /-- Whether a statement is a query, and which. -/
  statement : Parser (Option Query)

namespace Grammar

open BankQuery.Sql.Parser

variable (g : Grammar)

def expr : Parser Expr := deeper (g.operation 0)

def exprs : Parser (List Expr) := commaList g.expr

/-- Whether `ALL` or `DISTINCT` is said, with the expressions to be distinct on. -/
def quantifier : Parser (Quantifier × List Expr) := do
  let all ← keyword? "ALL"
  if ← keyword? "DISTINCT" then
    ensure (!all)
    if ← keyword? "ON" then
      symbol "("
      if ← symbol? ")" then pure (.distinctOn, [])
      else
        let on ← g.exprs
        symbol ")"
        pure (.distinctOn, on)
    else pure (.distinct, [])
  else pure (.all, [])

def isDistinct : Quantifier → Bool
  | .all => false
  | _ => true

def sorted : Parser (Expr × SortOrder) := do
  let e ← g.expr
  let descending ← match ← oneOf? ["ASC", "DESC"] with
    | some word => pure (some (word == "DESC"))
    | none => pure none
  let nullsFirst ←
    if ← phrase? ["NULLS", "FIRST"] then pure (some true)
    else if ← phrase? ["NULLS", "LAST"] then pure (some false)
    else pure none
  pure (e, ⟨descending, nullsFirst⟩)

def orderBy : Parser (List (Expr × SortOrder)) := listAfter ["ORDER", "BY"] (commaList g.sorted)

/-- A number of rows; all of them is no limit. -/
def limit : Parser (Option Expr) := do
  if ← keyword? "ALL" then pure none else some <$> g.expr

/-- A placeholder behind its mark: a word, or a number as it is written. -/
def markedPlaceholder (mark : String) : Parser Expr := do
  match ← next with
  | .word w => pure (.placeholder (mark ++ w.name.text))
  | .number digits false => pure (.placeholder (mark ++ digits))
  | _ => fail

def value : Parser Expr := do
  match ← next with
  | .word w =>
    if w.keyword = "TRUE" then pure (.literal (.bool true))
    else if w.keyword = "FALSE" then pure (.literal (.bool false))
    else if w.keyword = "NULL" then pure (.literal .null)
    else if w.name.quote = some '"' then pure (.literal (.doubleQuoted w.name.text))
    else fail
  | .number digits long => pure (.literal (.number digits long))
  | .string s => pure (.literal (.string s))
  | .national s => pure (.literal (.national s))
  | .escaped s => pure (.literal (.escaped s))
  | .hex s => pure (.literal (.hex s))
  | .dollar tag s => pure (.literal (.dollar tag s))
  | .placeholder p => pure (.placeholder p)
  | .symbol ":" => markedPlaceholder ":"
  | .symbol "@" => markedPlaceholder "@"
  | _ => fail

def numberValue : Parser Expr := do
  let e ← value
  match e with
  | .literal (.number _ _) => pure e
  | .placeholder _ => pure e
  | _ => fail

def dateField : Parser String := oneOf dateFields

end Grammar

end BankQuery.Sql
