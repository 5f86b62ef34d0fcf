import BankQuery.Sql.Grammar.Interval
import BankQuery.Sql.Print

/-!
# Calls

Calls with what may stand in and behind their parentheses: arguments by position or by name, a
filter, a window. Then the functions with a form of their own, each read from behind its word.
-/

namespace BankQuery.Sql.Grammar

open BankQuery.Sql.Parser

variable (g : Grammar)

/-- The names before a star, if names with points and then a star are next. -/
def starPath : List Token → Option (List Name × List Token)
  | .symbol "*" :: rest => some ([], rest)
  | t :: .symbol "." :: rest =>
    match nameOf? t, starPath rest with
    | some n, some (names, rest) => some (n :: names, rest)
    | _, _ => none
  | _ => none

/-- An expression or a star, which may stand behind the name of a table. -/
def exprOrStar : Parser Expr := do
  match starPath (← rest) with
  | some (names, rest) =>
    set rest
    pure (.star names)
  | none => g.expr

def isNamedArgument : List Token → Bool
  | _ :: .symbol "=>" :: _ => true
  | _ => false

def argument : Parser (Option Name × Expr) := do
  if isNamedArgument (← rest) then
    let n ← name
    symbol "=>"
    pure (some n, ← g.exprOrStar)
  else pure (none, ← g.exprOrStar)

def arguments : Parser (List (Option Name × Expr)) := do
  if ← symbol? ")" then pure []
  else
    let args ← commaList g.argument
    symbol ")"
    pure args

def sortedArguments : Parser (List (Option Name × Expr) × List (Expr × SortOrder)) := do
  if ← symbol? ")" then pure ([], [])
  else
    let args ← commaList g.argument
    let orders ← g.orderBy
    symbol ")"
    pure (args, orders)

def frameBound : Parser (FrameBound × List Expr) := do
  if ← phrase? ["CURRENT", "ROW"] then pure (.currentRow, [])
  else
    let value ←
      if ← keyword? "UNBOUNDED" then pure none
      else
        match ← peek? with
        | some (.string _) => some <$> g.interval
        | _ => some <$> g.expr
    let side ← oneOf ["PRECEDING", "FOLLOWING"]
    if side = "PRECEDING" then pure (.preceding value.isSome, value.toList)
    else pure (.following value.isSome, value.toList)

def frame : Parser (Frame × List Expr) := do
  let units ← oneOf ["ROWS", "RANGE", "GROUPS"]
  if ← keyword? "BETWEEN" then
    let (start, low) ← g.frameBound
    keyword "AND"
    let (stop, high) ← g.frameBound
    pure (⟨units, start, some stop⟩, low ++ high)
  else
    let (start, value) ← g.frameBound
    pure (⟨units, start, none⟩, value)

def window : Parser (WindowShape × List Expr) := do
  let parts ← listAfter ["PARTITION", "BY"] g.exprs
  let orders ← g.orderBy
  let operands := parts ++ orders.map Prod.fst
  let shape : Option Frame → WindowShape := fun f => ⟨parts.length, orders.map Prod.snd, f⟩
  if ← symbol? ")" then pure (shape none, operands)
  else
    let (f, bounds) ← g.frame
    symbol ")"
    pure (shape (some f), operands ++ bounds)

/-- A condition on the rows of a call. What was read of it is not given back. -/
def filter? : Parser (Option Expr) := do
  if ← keyword? "FILTER" then
    if ← symbol? "(" then
      if ← keyword? "WHERE" then
        let condition ← g.expr
        symbol ")"
        return some condition
  pure none

def nullTreatment? : Parser (Option String) := do
  match ← oneOf? ["RESPECT", "IGNORE"] with
  | some word =>
    keyword "NULLS"
    pure (some (word ++ " NULLS"))
  | none => pure none

def over? : Parser (Option Window × List Expr) := do
  if ← keyword? "OVER" then
    if ← symbol? "(" then
      let (shape, operands) ← g.window
      pure (some (.given shape), operands)
    else pure (some (.named (← name)), [])
  else pure (none, [])

def call (function : List Name) : Parser Expr := do
  symbol "("
  let (chosen, _) ← g.quantifier
  let (args, orders) ← g.sortedArguments
  let filter ← g.filter?
  let nulls ← nullTreatment?
  let (window, windowOperands) ← g.over?
  pure (.call function
    { distinct := isDistinct chosen, arguments := args.map Prod.fst, filtered := filter.isSome,
      nulls := nulls, window := window, orders := orders.map Prod.snd }
    (args.map Prod.snd ++ filter.toList ++ windowOperands ++ orders.map Prod.fst))

/-- A call of a function of the time, which may have no parentheses. -/
def timeCall (function : Name) : Parser Expr := do
  if ← symbol? "(" then
    let (args, orders) ← g.sortedArguments
    pure (.call [function] { arguments := args.map Prod.fst, orders := orders.map Prod.snd }
      (args.map Prod.snd ++ orders.map Prod.fst))
  else pure (.call [function] { bare := true } [])

/-- A literal or a placeholder that is no expression of the statement. -/
def heldValue : Parser Value := do
  match ← value with
  | .literal v => pure (.literal v)
  | .placeholder name => pure (.placeholder name)
  | _ => fail

def branches : Parser (List (Expr × Expr)) := do
  let read ← iterate (fun done => do
    if ← keyword? "WHEN" then
      let condition ← g.expr
      keyword "THEN"
      pure (some ((condition, ← g.expr) :: done))
    else pure none) []
  pure read.reverse

def caseForm : Parser Expr := do
  let operand ←
    if ← keyword? "WHEN" then pure none
    else
      let e ← g.expr
      keyword "WHEN"
      pure (some e)
  let condition ← g.expr
  keyword "THEN"
  let result ← g.expr
  let others ← g.branches
  let otherwise ← afterKeyword? "ELSE" g.expr
  keyword "END"
  let all := (condition, result) :: others
  pure (.form (.cases operand.isSome all.length otherwise.isSome)
    (operand.toList ++ all.map Prod.fst ++ all.map Prod.snd ++ otherwise.toList))

def castFormat? : Parser (Option CastFormat) := do
  if ← keyword? "FORMAT" then
    let format ← heldValue
    if ← phrase? ["AT", "TIME", "ZONE"] then pure (some ⟨format, some (← heldValue)⟩)
    else pure (some ⟨format, none⟩)
  else pure none

def castForm (word : String) : Parser Expr := parenthesized do
  let e ← g.expr
  keyword "AS"
  let type ← readType
  pure (.form (.cast word type.text type.quoted (← castFormat?)) [e])

def existsForm (negated : Bool) : Parser Expr :=
  parenthesized (.exists negated <$> g.query)

def extractForm : Parser Expr := parenthesized do
  let field ← dateField
  keyword "FROM"
  pure (.form (.extract field) [← g.expr])

def roundingForm (word : String) : Parser Expr := parenthesized do
  let e ← g.expr
  let field ← afterKeyword? "TO" dateField
  pure (.form (.rounding word field) [e])

def positionForm : Parser Expr := parenthesized do
  let e ← g.operation comparisonStrength
  keyword "IN"
  pure (.form .position [e, ← g.expr])

def partAfter? (word : String) : Parser (Option Expr) := do
  if ← keyword? word then some <$> g.expr
  else if ← symbol? "," then some <$> g.expr
  else pure none

def substringForm : Parser Expr := parenthesized do
  let e ← g.expr
  let start ← g.partAfter? "FROM"
  let length ← g.partAfter? "FOR"
  pure (.form (.substring start.isSome length.isSome) (e :: start.toList ++ length.toList))

def overlayForm : Parser Expr := parenthesized do
  let e ← g.expr
  keyword "PLACING"
  let what ← g.expr
  keyword "FROM"
  let start ← g.expr
  let length ← afterKeyword? "FOR" g.expr
  pure (.form (.overlay length.isSome) (e :: what :: start :: length.toList))

/-- What is trimmed of which characters; where no characters are given, a comma may stand before the
closing parenthesis. -/
def trimForm : Parser Expr := parenthesized do
  let side ← oneOf? ["BOTH", "LEADING", "TRAILING"]
  let e ← g.expr
  match ← afterKeyword? "FROM" g.expr with
  | some text => pure (.form (.trim side true) [text, e])
  | none =>
    let _ ← symbol? ","
    pure (.form (.trim side false) [e])

def listAggForm : Parser Expr := do
  let (chosen, e, separator, overflow) ← parenthesized do
    let (chosen, _) ← g.quantifier
    let e ← g.expr
    let separator ← if ← symbol? "," then some <$> g.expr else pure none
    let overflow ← phrase? ["ON", "OVERFLOW"]
    if overflow then keyword "ERROR"
    pure (chosen, e, separator, overflow)
  let orders ←
    if ← phrase? ["WITHIN", "GROUP"] then
      parenthesized do
        phrase ["ORDER", "BY"]
        commaList g.sorted
    else pure []
  pure (.form (.listAgg (isDistinct chosen) separator.isSome overflow (orders.map Prod.snd))
    (e :: separator.toList ++ orders.map Prod.fst))

def arrayAggForm : Parser Expr := parenthesized do
  let distinct ← keyword? "DISTINCT"
  let e ← g.expr
  let orders ← g.orderBy
  let most ← if ← keyword? "LIMIT" then g.limit else pure none
  pure (.form (.arrayAgg distinct (orders.map Prod.snd) most.isSome)
    (e :: orders.map Prod.fst ++ most.toList))

def arrayForm (named : Bool) : Parser Expr := do
  if ← symbol? "]" then pure (.form (.array named) [])
  else
    let members ← g.exprs
    symbol "]"
    pure (.form (.array named) members)

end BankQuery.Sql.Grammar
