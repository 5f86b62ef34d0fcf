import BankQuery.Sql.Grammar.Relation

/-!
# Queries

The clauses of a query in their order, and the operators between the bodies of queries.
-/

namespace BankQuery.Sql.Grammar

open BankQuery.Sql.Parser

variable (g : Grammar)

def top? : Parser (Option Expr × TopStyle) := do
  if ← keyword? "TOP" then
    let value ← if ← symbol? "(" then
        let e ← g.expr
        symbol ")"
        pure e
      else numberValue
    let percent ← keyword? "PERCENT"
    let withTies ← phrase? ["WITH", "TIES"]
    pure (some value, { percent := percent, withTies := withTies })
  else pure (none, {})

/-- A condition on the rows of a selected expression. Nothing is taken unless `FILTER`, a
parenthesis and `WHERE` follow each other. -/
def itemFilter (e : Expr) : Parser Expr := do
  match ← rest with
  | f :: .symbol "(" :: w :: _ =>
    if isKeyword "FILTER" f && isKeyword "WHERE" w then
      keyword "FILTER"
      symbol "("
      keyword "WHERE"
      let condition ← g.expr
      symbol ")"
      pure (.form .filtered [e, condition])
    else pure e
  | _ => pure e

def item : Parser (Expr × Option Name) := do
  let e ← g.exprOrStar
  match e with
  | .star _ => pure (e, none)
  | e => pure (← g.itemFilter e, ← alias? notColumnAliases)

def into? : Parser (Option String) := do
  if ← keyword? "INTO" then
    let temporary ← oneOf? ["TEMP", "TEMPORARY"]
    let unlogged ← keyword? "UNLOGGED"
    let table ← keyword? "TABLE"
    pure (some (when temporary.isSome " TEMPORARY" ++ when unlogged " UNLOGGED" ++
      when table " TABLE" ++ " " ++ printNames (← path)))
  else pure none

def view? : Parser (Option (Expr × ViewStyle)) := do
  if ← phrase? ["LATERAL", "VIEW"] then
    let outer ← keyword? "OUTER"
    let e ← g.expr
    let table ← path
    let names ← commaList (alias? notViewAliases)
    pure (some (e, ⟨outer, table, names.filterMap id⟩))
  else pure none

def views : Parser (List (Expr × ViewStyle)) := do
  pure (← iterate (fun done => do pure ((← g.view?).map (· :: done))) []).reverse

/-- A group of expressions to group by; one alone needs no parentheses if `lift`. -/
def group (lift : Bool) : Parser (List Expr) := do
  if ← symbol? "(" then
    if ← symbol? ")" then pure []
    else
      let es ← g.exprs
      symbol ")"
      pure es
  else if lift then pure [← g.expr]
  else fail

def groupingForm (words : String) (lift : Bool) : Parser Expr := do
  let groups ← parenthesized (commaList (g.group lift))
  pure (.form (.grouping words (groups.map List.length)) groups.flatten)

def groupExpr : Parser Expr := do
  if ← phrase? ["GROUPING", "SETS"] then g.groupingForm "GROUPING SETS" false
  else if ← keyword? "CUBE" then g.groupingForm "CUBE" true
  else if ← keyword? "ROLLUP" then g.groupingForm "ROLLUP" true
  else g.expr

def groupBy : Parser (Bool × List Expr) := do
  if ← phrase? ["GROUP", "BY"] then
    if ← keyword? "ALL" then pure (true, []) else pure (false, ← commaList g.groupExpr)
  else pure (false, [])

def namedWindow : Parser ((Name × WindowShape) × List Expr) := do
  let n ← name
  keyword "AS"
  symbol "("
  let (shape, operands) ← g.window
  pure ((n, shape), operands)

def select : Parser Select := do
  let (quantifier, on) ← g.quantifier
  let (top, topStyle) ← g.top?
  let items ← commaList g.item
  let into ← into?
  let sources ← listAfter ["FROM"] (commaList g.source)
  let views ← g.views
  let condition ← afterKeyword? "WHERE" g.expr
  let (groupsAll, groups) ← g.groupBy
  let clusters ← listAfter ["CLUSTER", "BY"] g.exprs
  let parts ← listAfter ["DISTRIBUTE", "BY"] g.exprs
  let sorts ← listAfter ["SORT", "BY"] g.exprs
  let having ← afterKeyword? "HAVING" g.expr
  let windows ← listAfter ["WINDOW"] (commaList g.namedWindow)
  let qualify ← afterKeyword? "QUALIFY" g.expr
  pure
    { quantifier := quantifier, distinctOn := on, top := top, topStyle := topStyle,
      items := items.map Prod.fst, aliases := items.map Prod.snd, into := into,
      sources := sources, views := views.map Prod.fst, viewStyles := views.map Prod.snd,
      condition := condition, groupsAll := groupsAll, groupBy := groups, clusterBy := clusters,
      distributeBy := parts, sortBy := sorts, having := having, windows := windows.map Prod.fst,
      windowOperands := windows.flatMap Prod.snd, qualify := qualify }

/-- Rows of values from behind the word, some of which may begin with `ROW`. -/
def rows : Parser Body := do
  let rows ← commaList do
    let explicitRow ← keyword? "ROW"
    pure (explicitRow, ← parenthesized g.exprs)
  pure (.values (rows.any Prod.fst) (rows.map fun r => r.2.length) (rows.flatMap Prod.snd))

/-- All of a table, from behind the word. Three tokens are taken, if there are so many. -/
def wholeTable : Parser Body := do
  let ts ← rest
  set (ts.drop 3)
  match ts with
  | .word schema :: .symbol "." :: .word table :: _ =>
    pure (.table [schema.name.text, table.name.text])
  | _ :: .symbol "." :: _ => fail
  | .word table :: _ => pure (.table [table.name.text])
  | _ => fail

/-- How equal rows are treated by an operator on the rows of two queries. -/
def setQuantifier (operator : String) : Parser String := do
  if operator = "UNION" then
    if ← phrase? ["DISTINCT", "BY", "NAME"] then pure " DISTINCT BY NAME"
    else if ← phrase? ["BY", "NAME"] then pure " BY NAME"
    else if ← phrase? ["ALL", "BY", "NAME"] then pure " ALL BY NAME"
    else plain
  else plain
where
  plain : Parser String := do
    match ← oneOf? ["ALL", "DISTINCT"] with
    | some word => pure (" " ++ word)
    | none => pure ""

def setStrengths : List (String × Nat) := [("UNION", 10), ("EXCEPT", 10), ("INTERSECT", 20)]

def simpleBody : Parser Body := do
  if ← keyword? "SELECT" then .select <$> g.select
  else if ← symbol? "(" then
    let query ← g.query
    symbol ")"
    pure (.query query)
  else if ← keyword? "VALUES" then g.rows
  else if ← keyword? "TABLE" then wholeTable
  else fail

/-- A body of operators that bind more than `s`. -/
def readBody (s : Nat) : Parser Body := do
  iterate (fun left => do
    match ← peek? with
    | none => pure none
    | some t =>
      match setStrengths.lookup t.keyword with
      | none => pure none
      | some strength =>
        if strength ≤ s then pure none
        else
          keyword t.keyword
          let quantifier ← setQuantifier t.keyword
          pure (some (.combined (t.keyword ++ quantifier) left (← g.body strength))))
    (← g.simpleBody)

def cte : Parser Cte := do
  let n ← name
  let columns ← columns?
  keyword "AS"
  let query ← parenthesized g.query
  pure ⟨⟨n, columns⟩, query, ← afterKeyword? "FROM" name⟩

/-- Limit and offset, of which each may stand before the other. -/
def limits : Parser (Option Expr × Option (Expr × String)) := do
  let (most, skipped) ← round none none
  round most skipped
where
  round (most : Option Expr) (skipped : Option (Expr × String)) :
      Parser (Option Expr × Option (Expr × String)) := do
    let most ← if most.isSome then pure most
      else if ← keyword? "LIMIT" then g.limit else pure none
    let skipped ← if skipped.isSome then pure skipped
      else if ← keyword? "OFFSET" then
        let e ← g.expr
        match ← oneOf? ["ROW", "ROWS"] with
        | some word => pure (some (e, " " ++ word))
        | none => pure (some (e, ""))
      else pure none
    pure (most, skipped)

def fetch? : Parser (Option Expr × Option FetchStyle) := do
  if ← keyword? "FETCH" then
    let _ ← oneOf ["FIRST", "NEXT"]
    let (value, percent) ←
      match ← oneOf? ["ROW", "ROWS"] with
      | some _ => pure (none, false)
      | none =>
        let e ← value
        let percent ← keyword? "PERCENT"
        let _ ← oneOf ["ROW", "ROWS"]
        pure (some e, percent)
    if ← keyword? "ONLY" then pure (value, some ⟨percent, false⟩)
    else
      phrase ["WITH", "TIES"]
      pure (value, some ⟨percent, true⟩)
  else pure (none, none)

def lock : Parser String := do
  let kind ← oneOf ["UPDATE", "SHARE"]
  let table ← afterKeyword? "OF" path
  let waiting ←
    if ← keyword? "NOWAIT" then pure " NOWAIT"
    else if ← phrase? ["SKIP", "LOCKED"] then pure " SKIP LOCKED"
    else pure ""
  pure ("FOR " ++ kind ++ clause " OF " (table.map printNames) ++ waiting)

def locks : Parser (List String) := do
  pure (← iterate
    (fun done => do
      if ← keyword? "FOR" then some <$> ((· :: done) <$> lock) else pure none) []).reverse

def readQuery : Parser Query := deeper do
  let isWith ← keyword? "WITH"
  let recursive ← if isWith then keyword? "RECURSIVE" else pure false
  let ctes ← if isWith then commaList g.cte else pure []
  let body ← g.readBody 0
  let orders ← g.orderBy
  let (most, skipped) ← g.limits
  let (fetch, fetchStyle) ← fetch?
  let locks ← locks
  pure
    { recursive := recursive, ctes := ctes, body := body, orderBy := orders.map Prod.fst,
      orders := orders.map Prod.snd, limit := most, offset := skipped.map Prod.fst,
      offsetRows := (skipped.map Prod.snd).getD "", fetch := fetch, fetchStyle := fetchStyle,
      locks := locks }

end BankQuery.Sql.Grammar
