import BankQuery.Sql.Grammar.Operand
import BankQuery.Sql.Grammar.Query
import BankQuery.Sql.Lexer

/-!
# Statements

A query, or one of the statements about the session, the transaction or a table, of which only the
form is checked. Statements that change data or definitions are not known here.

`statements?` reads a whole text.
-/

namespace BankQuery.Sql

namespace Grammar

open BankQuery.Sql.Parser

variable (g : Grammar)

def explain : Parser Unit := do
  let _ ← keyword? "ANALYZE"
  let _ ← keyword? "VERBOSE"
  if ← keyword? "FORMAT" then
    let _ ← oneOf ["TEXT", "GRAPHVIZ", "JSON"]
  let inner ← match ← rest with
    | t :: _ => pure (isKeyword "EXPLAIN" t || isKeyword "DESCRIBE" t)
    | [] => pure false
  match ← maybe g.statement with
  | some _ => ensure (!inner)
  | none =>
    let _ ← path

def analysisClause : Parser (Option Unit) := do
  match ← oneOf? ["PARTITION", "FOR", "CACHE", "NOSCAN", "COMPUTE"] with
  | none => pure none
  | some "PARTITION" =>
    let _ ← parenthesized g.exprs
    pure (some ())
  | some "FOR" =>
    keyword "COLUMNS"
    let _ ← maybe (commaList name)
    pure (some ())
  | some "CACHE" =>
    keyword "METADATA"
    pure (some ())
  | some "COMPUTE" =>
    keyword "STATISTICS"
    pure (some ())
  | some _ => pure (some ())

def analyze : Parser Unit := do
  keyword "TABLE"
  let _ ← path
  iterate (fun _ => g.analysisClause) ()

def kill : Parser Unit := do
  let kind ← oneOf? ["CONNECTION", "QUERY", "MUTATION"]
  let _ ← natural
  ensure (kind != some "MUTATION")

def attach : Parser Unit := do
  let _ ← keyword? "DATABASE"
  let _ ← g.expr
  keyword "AS"
  let _ ← name

def repair : Parser Unit := do
  let _ ← keyword? "REPAIR"
  keyword "TABLE"
  let _ ← path
  let _ ← maybe do
    let _ ← oneOf? ["ADD", "DROP", "SYNC"]
    keyword "PARTITIONS"

def option : Parser Unit := do
  let _ ← name
  symbol "="
  let _ ← value

/-- The rest of a cached table: options, and the query that fills it. -/
def cached : Parser Unit := do
  keyword "TABLE"
  let _ ← path
  if ← keyword? "OPTIONS" then
    let _ ← parenthesized (commaList option)
  match ← peek? with
  | none => pure ()
  | some (.word _) =>
    let _ ← keyword? "AS"
    let _ ← g.query
  | some _ => fail

def cache : Parser Unit := do
  match ← rest with
  | t :: _ =>
    if isKeyword "TABLE" t then g.cached
    else
      let _ ← path
      g.cached
  | [] => fail

/-- A table whose rows are given up. The whole text ends with it. -/
def uncache : Parser Unit := do
  keyword "TABLE"
  let _ ← phrase? ["IF", "EXISTS"]
  let _ ← path
  ensure (← rest).isEmpty

def declare : Parser Unit := do
  let _ ← name
  let _ ← keyword? "BINARY"
  let _ ← oneOf? ["INSENSITIVE", "ASENSITIVE"]
  if !(← keyword? "SCROLL") then
    let _ ← phrase? ["NO", "SCROLL"]
  keyword "CURSOR"
  if (← oneOf? ["WITH", "WITHOUT"]).isSome then keyword "HOLD"
  keyword "FOR"
  let _ ← g.query

def direction : Parser Unit := do
  match ← oneOf? ["NEXT", "PRIOR", "FIRST", "LAST", "ABSOLUTE", "RELATIVE", "FORWARD", "BACKWARD",
    "ALL"] with
  | none =>
    let _ ← numberValue
  | some word =>
    if word = "ABSOLUTE" ∨ word = "RELATIVE" then
      let _ ← numberValue
    else if word = "FORWARD" ∨ word = "BACKWARD" then
      if !(← keyword? "ALL") then
        let _ ← numberValue

def fetch : Parser Unit := do
  direction
  let _ ← oneOf ["FROM", "IN"]
  let _ ← name
  let _ ← afterKeyword? "INTO" path

def transactionMode? : Parser Bool := do
  if ← phrase? ["ISOLATION", "LEVEL"] then
    if ← phrase? ["READ", "UNCOMMITTED"] then pure true
    else if ← phrase? ["READ", "COMMITTED"] then pure true
    else if ← phrase? ["REPEATABLE", "READ"] then pure true
    else
      keyword "SERIALIZABLE"
      pure true
  else if ← phrase? ["READ", "ONLY"] then pure true
  else phrase? ["READ", "WRITE"]

/-- Modes of a transaction, between which commas may stand. -/
def transactionModes : Parser Unit := do
  let _ ← iterate (fun wanted => do
    if ← transactionMode? then some <$> symbol? ","
    else
      ensure (!wanted)
      pure none) false

def values : Parser Unit := do
  let _ ← g.exprs

def setting (target : String) (plain : Bool) : Parser Unit := do
  if (← symbol? "=") || (← keyword? "TO") then g.values
  else if Text.sameAscii target "TIMEZONE" then
    let _ ← g.expr
  else if target = "CHARACTERISTICS" then
    phrase ["AS", "TRANSACTION"]
    transactionModes
  else if target = "TRANSACTION" ∧ plain then
    if ← keyword? "SNAPSHOT" then
      let _ ← value
    else transactionModes
  else fail

def setForm : Parser Unit := do
  let scope ← oneOf? ["SESSION", "LOCAL", "HIVEVAR"]
  if scope = some "HIVEVAR" then symbol ":"
  let role ← if scope = some "HIVEVAR" then pure false else keyword? "ROLE"
  if role then
    if !(← keyword? "NONE") then
      let _ ← name
  else
    let zone ← phrase? ["TIME", "ZONE"]
    let target ← if zone then pure "TIMEZONE" else printNames <$> path
    g.setting target scope.isNone

def showFilter : Parser Unit := do
  match ← oneOf? ["LIKE", "ILIKE", "WHERE"] with
  | none => pure ()
  | some "WHERE" =>
    let _ ← g.expr
  | some _ =>
    let _ ← text

/-- Names up to the end or to an equals sign, whatever stands between them. -/
def shownVariable : Parser Unit := do
  set ((← rest).dropWhile (· != .symbol "="))

def showForm : Parser Unit := do
  let extended ← keyword? "EXTENDED"
  let full ← keyword? "FULL"
  match ← oneOf? ["COLUMNS", "FIELDS", "TABLES", "FUNCTIONS"] with
  | some "TABLES" =>
    if (← oneOf? ["FROM", "IN"]).isSome then
      let _ ← name
    g.showFilter
  | some "FUNCTIONS" => g.showFilter
  | some _ =>
    let _ ← oneOf ["FROM", "IN"]
    let _ ← path
    if (← oneOf? ["FROM", "IN"]).isSome then
      let _ ← name
    g.showFilter
  | none =>
    ensure (!extended && !full)
    if ← keyword? "COLLATION" then g.showFilter else shownVariable

/-- Whether a transaction is followed by another. -/
def chain : Parser Unit := do
  let _ ← oneOf? ["TRANSACTION", "WORK"]
  if ← keyword? "AND" then
    let _ ← keyword? "NO"
    keyword "CHAIN"

def assert : Parser Unit := do
  let _ ← g.expr
  let _ ← afterKeyword? "AS" g.expr

def prepare : Parser Unit := do
  let _ ← name
  if ← symbol? "(" then
    let _ ← commaList readType
    symbol ")"
  keyword "AS"
  let _ ← g.statement

def pragma : Parser Unit := do
  let _ ← path
  if ← symbol? "(" then
    let _ ← numberValue
    symbol ")"
  else if ← symbol? "=" then
    let _ ← numberValue

/-- The statement that a keyword begins, if it is no query, from behind the keyword. -/
def commandForm? (word : String) : Option (Parser Unit) :=
  match word with
  | "EXPLAIN" => some g.explain
  | "DESCRIBE" => some g.explain
  | "ANALYZE" => some g.analyze
  | "KILL" => some kill
  | "ATTACH" => some g.attach
  | "MSCK" => some repair
  | "CACHE" => some g.cache
  | "UNCACHE" => some uncache
  | "DISCARD" => some do
    let _ ← oneOf ["ALL", "PLANS", "SEQUENCES", "TEMP", "TEMPORARY"]
  | "DECLARE" => some g.declare
  | "FETCH" => some fetch
  | "CLOSE" => some do
    if !(← keyword? "ALL") then
      let _ ← name
  | "SET" => some g.setForm
  | "SHOW" => some g.showForm
  | "USE" => some do
    let _ ← name
  | "START" => some do
    keyword "TRANSACTION"
    transactionModes
  | "BEGIN" => some do
    let _ ← oneOf? ["TRANSACTION", "WORK"]
    transactionModes
  | "SAVEPOINT" => some do
    let _ ← name
  | "COMMIT" => some chain
  | "ROLLBACK" => some chain
  | "ASSERT" => some g.assert
  | "DEALLOCATE" => some do
    let _ ← keyword? "PREPARE"
    let _ ← name
  | "PREPARE" => some g.prepare
  | "PRAGMA" => some pragma
  | _ => none

def beginsQuery (t : Token) : Bool :=
  t == .symbol "(" || ["SELECT", "WITH", "VALUES"].contains t.keyword

def readStatement : Parser (Option Query) := deeper do
  match ← peek? with
  | none => fail
  | some t =>
    if beginsQuery t then some <$> g.readQuery
    else
      match g.commandForm? t.keyword with
      | some form =>
        let _ ← next
        form
        pure none
      | none => fail

/-- The grammar in which forms hold what `g` reads. -/
def above (g : Grammar) : Grammar where
  operation := g.readOperation
  operand := g.readOperand
  query := g.readQuery
  body := g.readBody
  source := g.readSource
  statement := g.readStatement

def empty : Grammar where
  operation _ := fail
  operand := fail
  query := fail
  body _ := fail
  source := fail
  statement := fail

/-- The grammar with forms inside each other up to the given number. -/
def levels : Nat → Grammar
  | 0 => empty
  | n + 1 => (levels n).above

/-- Take the separators in front, and say whether there are any. -/
def separators : Parser Bool :=
  iterate (fun _ => do if ← symbol? ";" then pure (some true) else pure none) false

/-- One more statement. One must be separated from the next, and nothing is read from an `END` on
that stands where a statement may begin. -/
def nextStatement (done : List (Option Query)) : Parser (Option (List (Option Query))) := do
  let separated ← separators
  match ← peek? with
  | none => pure none
  | some t =>
    if isKeyword "END" t then pure none
    else
      ensure (done.isEmpty || separated)
      pure (some ((← g.statement) :: done))

def readStatements : Parser (List (Option Query)) := do
  pure (← iterate g.nextStatement []).reverse

end Grammar

/-- How many statements, queries and expressions may be open inside each other. -/
def depthLimit : Nat := 50

/-- The statements of a text, where one that is no query is `none`. -/
def statements? (s : String) : Option (List (Option Query)) := do
  let tokens ← lex s
  let (statements, _) ← (Grammar.levels (tokens.length + 2)).readStatements depthLimit tokens
  pure statements

end BankQuery.Sql
