import BankQuery.Sql.Grammar.Basic
import BankQuery.Sql.Grammar.TypeName

/-!
# Operators

`strength` says how much the operator at the front of the tokens binds, zero if there is none.
`Grammar.operator` reads an operator and what stands to its right.
-/

namespace BankQuery.Sql.Grammar

open BankQuery.Sql.Parser

variable (g : Grammar)

def testStrength : Nat := 17

def patternStrength : Nat := 19

/-- Strength of comparisons and of tests for a range or a list. -/
def comparisonStrength : Nat := 20

def negationStrength : Nat := 15

def sumStrength : Nat := 30

def productStrength : Nat := 40

def accessStrength : Nat := 50

def patternWords : List String := ["LIKE", "ILIKE", "RLIKE", "REGEXP", "SIMILAR"]

def wordStrengths : List (String × Nat) := [
  ("OR", 5), ("AND", 10), ("XOR", 24), ("IS", testStrength), ("IN", comparisonStrength),
  ("BETWEEN", comparisonStrength), ("OPERATOR", comparisonStrength), ("DIV", productStrength)] ++
  patternWords.map fun word => (word, patternStrength)

def symbolStrengths : List (String × Nat) :=
  ["=", "<", "<=", "<>", ">", ">=", "==", "~", "~*", "!~", "!~*", "<=>"].map
    (·, comparisonStrength) ++
  [("|", 21), ("^", 22), ("#", 22), (">>", 22), ("<<", 22), ("&", 23)] ++
  ["+", "-"].map (·, sumStrength) ++ ["*", "/", "%", "||"].map (·, productStrength) ++
  ["::", ":", "!", "[", "&&", "->", "->>", "#>", "#>>", "@>", "<@", "#-", "@?", "@@"].map
    (·, accessStrength)

/-- How much the operator at the front binds. -/
def strength : List Token → Nat
  | .symbol s :: _ => (symbolStrengths.lookup s).getD 0
  | .word w :: rest =>
    if w.keyword = "AT" then
      if (afterKeywords ["TIME", "ZONE"] rest).isSome then comparisonStrength else 0
    else if w.keyword = "NOT" then
      match rest with
      | t :: _ =>
        if t.keyword = "IN" ∨ t.keyword = "BETWEEN" then comparisonStrength
        else if patternWords.contains t.keyword then patternStrength
        else 0
      | [] => 0
    else (wordStrengths.lookup w.keyword).getD 0
  | _ => 0

def binarySymbols : List (String × BinaryOp) :=
  [("=", .compare .eq), ("==", .compare .eq), ("<", .compare .lt), ("<=", .compare .le),
    (">", .compare .gt), (">=", .compare .ge)] ++
  ["<>", "<=>", "+", "-", "*", "/", "%", "||", "|", "^", "&", "<<", ">>", "#", "&&", "~", "~*",
     "!~", "!~*"].map fun s => (s, .other s)

def jsonSymbols : List String := ["->", "->>", "#>", "#>>", "@>", "<@", "#-", "@?", "@@"]

/-- Comparisons may be with any or all members of an array. -/
def isComparison : BinaryOp → Bool
  | .compare _ => true
  | .other text => text == "<>"
  | _ => false

def namedOperator : Parser BinaryOp := parenthesized do
  let first ← next
  let others ← iterate
    (fun done => do if ← symbol? "." then some <$> ((· :: done) <$> next) else pure none) []
  pure (.other ("OPERATOR(" ++ ".".intercalate ((first :: others.reverse).map Token.print) ++ ")"))

def binary? : Token → Option (Parser BinaryOp)
  | .symbol s => (binarySymbols.lookup s).map pure
  | .word w =>
    if w.keyword = "AND" then some (pure .and)
    else if w.keyword = "OR" then some (pure .or)
    else if w.keyword = "XOR" then some (pure (.other "XOR"))
    else if w.keyword = "OPERATOR" then some namedOperator
    else none
  | _ => none

def rightSide (left : Expr) (op : BinaryOp) (s : Nat) : Parser Expr := do
  match ← oneOf? ["ANY", "ALL"] with
  | some quantifier =>
    let right ← parenthesized (g.operation s)
    ensure (isComparison op)
    pure (.form (.quantified op.text quantifier) [left, right])
  | none => pure (.binary op left (← g.operation s))

/-- What a value is tested for behind `IS`. -/
def isForm (left : Expr) : Parser Expr := do
  match ← oneOf? ["NULL", "TRUE", "FALSE", "UNKNOWN"] with
  | some word => pure (.form (.isTest word) [left])
  | none =>
    if ← phrase? ["DISTINCT", "FROM"] then
      pure (.form (.distinctFrom false) [left, ← g.expr])
    else if ← phrase? ["NOT", "DISTINCT", "FROM"] then
      pure (.form (.distinctFrom true) [left, ← g.expr])
    else
      keyword "NOT"
      let word ← oneOf ["NULL", "TRUE", "FALSE", "UNKNOWN"]
      pure (.form (.isTest ("NOT " ++ word)) [left])

/-- The character that escapes others in a pattern, which takes one byte. -/
def escape? : Parser (Option String) := do
  if ← keyword? "ESCAPE" then
    let s ← text
    ensure (s.utf8ByteSize == 1)
    pure (some s)
  else pure none

def startsQuery (ts : List Token) : Bool :=
  match ts with
  | t :: _ => isKeyword "SELECT" t || isKeyword "WITH" t
  | [] => false

def membership (left : Expr) (negated : Bool) : Parser Expr := do
  if ← keyword? "UNNEST" then
    pure (.form (.inUnnest negated) [left, ← parenthesized g.expr])
  else parenthesized do
    if startsQuery (← rest) then pure (.inSubquery negated left (← g.query))
    else pure (.form (.inList negated) (left :: (← g.exprs)))

def patternForm (left : Expr) (negated : Bool) (operator : String) : Parser Expr := do
  let pattern ← g.operation patternStrength
  pure (.form (.like negated operator (← escape?)) [left, pattern])

/-- The word of a match with a regular expression. `RLIKE` may stand behind `REGEXP`, and then adds
nothing to it. -/
def matchWord? : Parser (Option String) := do
  let regexp ← keyword? "REGEXP"
  let rlike ← keyword? "RLIKE"
  pure (if regexp then some "REGEXP" else if rlike then some "RLIKE" else none)

def testForm (left : Expr) : Parser Expr := do
  let negated ← keyword? "NOT"
  match ← matchWord? with
  | some word =>
    pure (.form (.like negated word none) [left, ← g.operation patternStrength])
  | none =>
    if ← keyword? "IN" then g.membership left negated
    else if ← keyword? "BETWEEN" then
      let low ← g.operation comparisonStrength
      keyword "AND"
      pure (.between negated left low (← g.operation comparisonStrength))
    else if ← keyword? "LIKE" then g.patternForm left negated "LIKE"
    else if ← keyword? "ILIKE" then g.patternForm left negated "ILIKE"
    else
      phrase ["SIMILAR", "TO"]
      g.patternForm left negated "SIMILAR TO"

def timeZoneForm (left : Expr) : Parser Expr := do
  phrase ["TIME", "ZONE"]
  match ← next with
  | .string zone => pure (.form (.atTimeZone zone) [left])
  | _ => fail

def indexForm (left : Expr) : Parser Expr := do
  let first ← g.expr
  symbol "]"
  let others ← iterate (fun done => do
    if ← symbol? "[" then
      let i ← g.expr
      symbol "]"
      pure (some (i :: done))
    else pure none) []
  pure (.form .index (left :: first :: others.reverse))

def symbolForm (left : Expr) (s : String) : Parser Expr := do
  if s = "::" then
    let type ← readType
    pure (.form (.cast "CAST" type.text type.quoted none) [left])
  else if s = "!" then pure (.form .factorial [left])
  else if s = "[" then g.indexForm left
  else if s = ":" then pure (.form (.json ":") [left, ← value])
  else if jsonSymbols.contains s then pure (.form (.json s) [left, ← g.expr])
  else fail

/-- An operator behind `left` with what stands to its right, which binds more than `s`. -/
def operator (left : Expr) (s : Nat) : Parser Expr := do
  match ← peek? with
  | none => fail
  | some t =>
    match binary? t with
    | some op =>
      let _ ← next
      g.rightSide left (← op) s
    | none =>
      match t with
      | .word w =>
        if w.keyword = "IS" then
          keyword "IS"
          g.isForm left
        else if w.keyword = "AT" then
          keyword "AT"
          timeZoneForm left
        else g.testForm left
      | .symbol text =>
        symbol text
        g.symbolForm left text
      | _ => fail

end BankQuery.Sql.Grammar
