import BankQuery.Sql.Grammar.Call

/-!
# What a query reads from

Tables and what is joined to them.
-/

namespace BankQuery.Sql.Grammar

open BankQuery.Sql.Parser

variable (g : Grammar)

def tableAlias? : Parser (Option TableAlias) := do
  match ← alias? notTableAliases with
  | some n => pure (some ⟨n, ← columns?⟩)
  | none => pure none

def derived (lateral : Bool) : Parser Relation := do
  let query ← g.query
  symbol ")"
  pure (.derived lateral query (← tableAlias?))

def lateral : Parser Relation := do
  if ← symbol? "(" then g.derived true
  else
    let function ← path
    symbol "("
    let args ← g.arguments
    pure (.function function (args.map Prod.fst) (args.map Prod.snd) (← tableAlias?))

def joined : Parser Relation := do
  let source ← g.source
  match source with
  | ⟨.nested _ _, _⟩ => pure ()
  | ⟨_, joins⟩ => ensure (!joins.isEmpty)
  symbol ")"
  pure (.nested source (← tableAlias?))

def unnest : Parser Relation := do
  let values ← parenthesized g.exprs
  let asName ← tableAlias?
  if ← keyword? "WITH" then
    if ← keyword? "OFFSET" then
      return .unnest values asName true (← alias? notColumnAliases)
  pure (.unnest values asName false none)

/-- A relation whose rows become columns, from behind the word. -/
def pivot (inner : Relation) : Parser Relation := do
  let (value, column, values) ← parenthesized do
    match ← next with
    | .word w =>
      let value ← g.call [⟨w.name.text, none⟩]
      keyword "FOR"
      let column ← path
      keyword "IN"
      pure (value, column, ← parenthesized (commaList heldValue))
    | _ => fail
  pure (.pivot inner value column values (← tableAlias?))

/-- A relation whose columns become rows, from behind the word. -/
def unpivot (inner : Relation) : Parser Relation := do
  let (value, column, names) ← parenthesized do
    let value ← name
    keyword "FOR"
    let column ← name
    keyword "IN"
    pure (value, column, ← columns)
  pure (.unpivot inner value column names (← tableAlias?))

def hints? : Parser (List Expr) := do
  match ← rest with
  | t :: .symbol "(" :: _ =>
    if isKeyword "WITH" t then
      keyword "WITH"
      parenthesized g.exprs
    else pure []
  | _ => pure []

def table : Parser Relation := do
  let name ← path
  let args ← if ← symbol? "(" then some <$> g.arguments else pure none
  let asName ← tableAlias?
  pure (.table name (args.map (·.map Prod.fst)) ((args.getD []).map Prod.snd) asName (← g.hints?))

/-- A table with the turns of rows and columns behind it, each of what stands before it. -/
def named : Parser Relation := do
  iterate (fun inner => do
    match ← oneOf? ["PIVOT", "UNPIVOT"] with
    | some word => some <$> if word = "PIVOT" then g.pivot inner else unpivot inner
    | none => pure none) (← g.table)

def relation : Parser Relation := do
  if ← keyword? "LATERAL" then g.lateral
  else if ← keyword? "TABLE" then
    let value ← parenthesized g.expr
    pure (.tableOf value (← tableAlias?))
  else if ← symbol? "(" then g.derived false <|> g.joined
  else if ← keyword? "UNNEST" then g.unnest
  else g.named

def joinRule (natural : Bool) : Parser (JoinRule × Option Expr) := do
  if natural then pure (.natural, none)
  else if ← keyword? "ON" then pure (.bare, some (← g.expr))
  else if ← keyword? "USING" then pure (.sharing (← columns), none)
  else pure (.bare, none)

def sideKind (isLeft : Bool) : Parser JoinKind := do
  match ← oneOf ["OUTER", "SEMI", "ANTI", "JOIN"] with
  | "JOIN" => pure (if isLeft then .left else .right)
  | word =>
    keyword "JOIN"
    if word = "SEMI" then pure (if isLeft then .leftSemi else .rightSemi)
    else if word = "ANTI" then pure (if isLeft then .leftAnti else .rightAnti)
    else pure (if isLeft then .left else .right)

def ruledKind? : Parser (Option JoinKind) := do
  match ← oneOf? ["INNER", "JOIN", "LEFT", "RIGHT", "FULL"] with
  | none => pure none
  | some "JOIN" => pure (some .inner)
  | some "INNER" =>
    keyword "JOIN"
    pure (some .inner)
  | some "FULL" =>
    let _ ← keyword? "OUTER"
    keyword "JOIN"
    pure (some .full)
  | some side => some <$> sideKind (side == "LEFT")

def join? : Parser (Option Join) := do
  if ← keyword? "CROSS" then
    let word ← oneOf ["JOIN", "APPLY"]
    pure (some ⟨← g.relation, if word = "JOIN" then .cross else .crossApply, .bare, none⟩)
  else if ← keyword? "OUTER" then
    keyword "APPLY"
    pure (some ⟨← g.relation, .outerApply, .bare, none⟩)
  else
    let natural ← keyword? "NATURAL"
    match ← ruledKind? with
    | none =>
      ensure (!natural)
      pure none
    | some kind =>
      let table ← g.relation
      let (rule, condition) ← g.joinRule natural
      pure (some ⟨table, kind, rule, condition⟩)

def readSource : Parser Source := do
  let first ← g.relation
  let joins ← iterate (fun done => do pure ((← g.join?).map (· :: done))) []
  pure ⟨first, joins.reverse⟩

end BankQuery.Sql.Grammar
