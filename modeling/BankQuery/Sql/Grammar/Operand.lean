import BankQuery.Sql.Grammar.Call

/-!
# Operands

What an expression may begin with. A word is a literal of the type that it names if a text follows,
else a keyword with a form of its own, else a call or a column.
-/

namespace BankQuery.Sql.Grammar

open BankQuery.Sql.Parser

variable (g : Grammar)

def typedLiteral : Parser Expr := do
  match ← readType with
  | .interval => g.interval
  | .known type _ => pure (.typed type (← text))
  | .other _ _ => fail

/-- Words of the session, which are calls without parentheses. -/
def sessionWords : List String := ["CURRENT_CATALOG", "CURRENT_USER", "SESSION_USER", "USER"]

def timeWords : List String :=
  ["CURRENT_TIMESTAMP", "CURRENT_TIME", "CURRENT_DATE", "LOCALTIME", "LOCALTIMESTAMP"]

/-- The reader of the form that a word begins, if it begins one of its own. It starts behind the
word, before the given tokens. -/
def wordForm? (w : Word) (behind : List Token) : Option (Parser Expr) :=
  match w.keyword with
  | "TRUE" => some (pure (.literal (.bool true)))
  | "FALSE" => some (pure (.literal (.bool false)))
  | "NULL" => some (pure (.literal .null))
  | "CASE" => some g.caseForm
  | "CAST" => some (g.castForm w.keyword)
  | "TRY_CAST" => some (g.castForm w.keyword)
  | "SAFE_CAST" => some (g.castForm w.keyword)
  | "EXISTS" => some (g.existsForm false)
  | "EXTRACT" => some g.extractForm
  | "CEIL" => some (g.roundingForm w.keyword)
  | "FLOOR" => some (g.roundingForm w.keyword)
  | "POSITION" => if behind.head? = some (.symbol "(") then some g.positionForm else none
  | "SUBSTRING" => some g.substringForm
  | "OVERLAY" => some g.overlayForm
  | "TRIM" => some g.trimForm
  | "INTERVAL" => some g.interval
  | "LISTAGG" => some g.listAggForm
  | "ARRAY" =>
    match behind with
    | .symbol "[" :: _ => some do
      symbol "["
      g.arrayForm true
    | .symbol "(" :: _ => some (parenthesized (.arrayOf <$> g.query))
    | _ => none
  | "ARRAY_AGG" => some g.arrayAggForm
  | "NOT" => some do
    if ← keyword? "EXISTS" then g.existsForm true
    else pure (.form .negation [← g.operation negationStrength])
  | word =>
    if sessionWords.contains word then some (pure (.call [w.name] { bare := true } []))
    else if timeWords.contains word then some (g.timeCall w.name)
    else none

/-- The literal that a text may be whose character set is named before it. -/
def introduced? : Token → Option Literal
  | .string s => some (.string s)
  | .hex s => some (.hex s)
  | _ => none

def namedForm (w : Word) : Parser Expr := do
  match ← rest with
  | .symbol "." :: _ =>
    symbol "."
    let names := w.name :: (← path)
    if (← peek?) = some (.symbol "(") then g.call names else pure (.path names)
  | .symbol "(" :: _ => g.call [w.name]
  | t :: _ =>
    match introduced? t with
    | some literal =>
      if w.name.text.startsWith "_" then
        let _ ← next
        pure (.form (.introduced w.name.text literal) [])
      else pure (.column w.name)
    | none => pure (.column w.name)
  | [] => pure (.column w.name)

def parenthesisForm : Parser Expr := do
  let e ←
    if startsQuery (← rest) then .subquery <$> g.query
    else
      match ← g.exprs with
      | [e] => pure (.nested e)
      | es => pure (.form .tuple es)
  symbol ")"
  if ← symbol? "." then
    match ← next with
    | .word w => pure (.form (.field w.name) [e])
    | _ => fail
  else pure e

/-- Operators before an operand, with the strength of what they may stand before. -/
def signs : List (String × Nat) :=
  [("-", productStrength), ("+", productStrength), ("!!", sumStrength), ("|/", sumStrength),
    ("||/", sumStrength), ("@", sumStrength), ("~", sumStrength)]

def symbolOperand (s : String) : Parser Expr := do
  if s = ":" then value
  else
    symbol s
    match signs.lookup s with
    | some strength => pure (.form (.prefixed s) [← g.operation strength])
    | none =>
      if s = "[" then g.arrayForm false
      else if s = "(" then g.parenthesisForm
      else fail

def plainOperand : Parser Expr := do
  match ← peek? with
  | some (.word w) =>
    let _ ← next
    match g.wordForm? w (← rest) with
    | some form => form
    | none => g.namedForm w
  | some (.symbol s) => g.symbolOperand s
  | _ => value

def readOperand : Parser Expr :=
  g.typedLiteral <|> do
    let e ← g.plainOperand
    if ← keyword? "COLLATE" then pure (.form (.collate (← path)) [e]) else pure e

/-- An expression of operators that bind more than `s`. -/
def readOperation (s : Nat) : Parser Expr := do
  iterate (fun e => do
    let t := strength (← rest)
    if s < t then some <$> g.operator e t else pure none) (← g.readOperand)

end BankQuery.Sql.Grammar
