import BankQuery.Sql.Tree

/-!
# Writing statements

The text of a tree: keywords in upper case, one blank between words, a comma and a blank between the
members of a list. Blanks and the case of keywords in the text that was read are not kept.
-/

namespace BankQuery.Sql

def commas (texts : List String) : String := ", ".intercalate texts

def parens (text : String) : String := "(" ++ text ++ ")"

def when (wanted : Bool) (text : String) : String := if wanted then text else ""

def clause (word : String) : Option String → String
  | none => ""
  | some text => word ++ text

def listClause (word : String) (texts : List String) : String :=
  when (!texts.isEmpty) (word ++ commas texts)

def Literal.print : Literal → String
  | .number digits long => digits ++ when long "L"
  | .string text => quotedText '\'' text
  | .doubleQuoted text => quotedText '"' text
  | .national text => "N'" ++ text ++ "'"
  | .escaped text => printEscaped text
  | .hex text => "X'" ++ text ++ "'"
  | .dollar tag text => printDollar tag text
  | .bool value => if value then "true" else "false"
  | .null => "NULL"

def Value.print : Value → String
  | .literal value => value.print
  | .placeholder name => name

def CastFormat.print (f : CastFormat) : String :=
  f.format.print ++ clause " AT TIME ZONE " (f.zone.map Value.print)

def SortOrder.print (o : SortOrder) : String :=
  (match o.descending with
    | none => ""
    | some descending => if descending then " DESC" else " ASC") ++
  match o.nullsFirst with
    | none => ""
    | some first => if first then " NULLS FIRST" else " NULLS LAST"

def withOrders (texts : List String) (orders : List SortOrder) : List String :=
  texts.zipWith (fun text order => text ++ order.print) orders

def TableAlias.print (a : TableAlias) : String :=
  a.name.print ++ when (!a.columns.isEmpty) (" " ++ parens (commas (a.columns.map Name.print)))

def printAlias (asName : Option TableAlias) : String := clause " AS " (asName.map TableAlias.print)

/-- The text of a bound, and the operands that are left. -/
def FrameBound.print (b : FrameBound) (operands : List String) : String × List String :=
  match b, operands with
  | .currentRow, rest => ("CURRENT ROW", rest)
  | .preceding true, value :: rest => (value ++ " PRECEDING", rest)
  | .preceding _, rest => ("UNBOUNDED PRECEDING", rest)
  | .following true, value :: rest => (value ++ " FOLLOWING", rest)
  | .following _, rest => ("UNBOUNDED FOLLOWING", rest)

def Frame.print (f : Frame) (operands : List String) : String :=
  let (start, rest) := f.start.print operands
  match f.stop with
  | none => f.units ++ " " ++ start
  | some stop => f.units ++ " BETWEEN " ++ start ++ " AND " ++ (stop.print rest).1

def FrameBound.size : FrameBound → Nat
  | .currentRow => 0
  | .preceding bounded => bounded.toNat
  | .following bounded => bounded.toNat

def WindowShape.size (w : WindowShape) : Nat :=
  w.partitions + w.orders.length +
    match w.frame with
    | none => 0
    | some f => f.start.size + (f.stop.elim 0 FrameBound.size)

def WindowShape.print (w : WindowShape) (operands : List String) : String :=
  let parts := operands.take w.partitions
  let rest := operands.drop w.partitions
  " ".intercalate <|
    (if parts.isEmpty then [] else ["PARTITION BY " ++ commas parts]) ++
    (if w.orders.isEmpty then [] else ["ORDER BY " ++ commas (withOrders rest w.orders)]) ++
    match w.frame with
    | none => []
    | some frame => [frame.print (rest.drop w.orders.length)]

def printArguments (names : List (Option Name)) (texts : List String) : List String :=
  names.zipWith (fun name text => clause "" (name.map fun n => n.print ++ " => ") ++ text) texts

def CallStyle.print (name : String) (s : CallStyle) (operands : List String) : String :=
  if s.bare then name
  else
    let arguments := printArguments s.arguments operands
    let rest := operands.drop s.arguments.length
    let filter := if s.filtered then rest.head? else none
    let rest := if s.filtered then rest.tail else rest
    let (window, rest) := match s.window with
      | none => ("", rest)
      | some (.named n) => (" OVER " ++ n.print, rest)
      | some (.given shape) => (" OVER " ++ parens (shape.print rest), rest.drop shape.size)
    name ++ "(" ++ when s.distinct "DISTINCT " ++ commas arguments ++
      listClause " ORDER BY " (withOrders rest s.orders) ++ ")" ++
      clause " FILTER (WHERE " (filter.map (· ++ ")")) ++ clause " " s.nulls ++ window

/-- The branches of a `CASE`, of which the conditions stand before the results. -/
def printBranches (conditions results : List String) : String :=
  "".intercalate <|
    conditions.zipWith (fun condition result => " WHEN " ++ condition ++ " THEN " ++ result) results

/-- Cut a list into groups of the given sizes. -/
def groupsOf : List Nat → List String → List (List String)
  | [], _ => []
  | n :: sizes, texts => texts.take n :: groupsOf sizes (texts.drop n)

def printGroup (lift : Bool) (group : List String) : String :=
  if lift && group.length == 1 then commas group else parens (commas group)

/-- An expression with operands, of which the texts are given. -/
def Shape.print : Shape → List String → String
  | .negation, a :: _ => "NOT " ++ a
  | .prefixed operator, a :: _ => operator ++ a
  | .factorial, a :: _ => a ++ "!"
  | .isTest test, a :: _ => a ++ " IS " ++ test
  | .distinctFrom negated, a :: b :: _ =>
    a ++ " IS " ++ when negated "NOT " ++ "DISTINCT FROM " ++ b
  | .inList negated, a :: list => a ++ when negated " NOT" ++ " IN " ++ parens (commas list)
  | .inUnnest negated, a :: b :: _ => a ++ when negated " NOT" ++ " IN UNNEST" ++ parens b
  | .like negated operator escape, a :: b :: _ =>
    a ++ when negated " NOT" ++ " " ++ operator ++ " " ++ b ++
      clause " ESCAPE '" (escape.map (· ++ "'"))
  | .quantified operator quantifier, a :: b :: _ =>
    a ++ " " ++ operator ++ " " ++ quantifier ++ parens b
  | .json operator, a :: b :: _ =>
    if operator = ":" then a ++ ":" ++ b else a ++ " " ++ operator ++ " " ++ b
  | .field name, a :: _ => a ++ "." ++ name.print
  | .cast word type _ format, a :: _ =>
    word ++ parens (a ++ " AS " ++ type ++ clause " FORMAT " (format.map CastFormat.print))
  | .atTimeZone zone, a :: _ => a ++ " AT TIME ZONE '" ++ zone ++ "'"
  | .extract unit, a :: _ => "EXTRACT" ++ parens (unit ++ " FROM " ++ a)
  | .rounding function unit, a :: _ => function ++ parens (a ++ clause " TO " unit)
  | .position, a :: b :: _ => "POSITION" ++ parens (a ++ " IN " ++ b)
  | .substring hasFrom hasFor, a :: rest =>
    "SUBSTRING" ++ parens (a ++ clause " FROM " (if hasFrom then rest.head? else none) ++
      clause " FOR " (if hasFor then rest.getLast? else none))
  | .trim side hasWhat, a :: rest =>
    "TRIM" ++ parens (clause "" (side.map (· ++ " ")) ++
      clause "" (if hasWhat then (rest.head?).map (· ++ " FROM ") else none) ++ a)
  | .overlay _, a :: what :: start :: rest =>
    "OVERLAY" ++ parens (a ++ " PLACING " ++ what ++ " FROM " ++ start ++ clause " FOR " rest.head?)
  | .collate name, a :: _ => a ++ " COLLATE " ++ printNames name
  | .cases hasOperand branches hasElse, operands =>
    let operand := if hasOperand then operands.head? else none
    let rest := if hasOperand then operands.tail else operands
    "CASE" ++ clause " " operand ++ printBranches (rest.take branches) (rest.drop branches) ++
      clause " ELSE " (if hasElse then rest.getLast? else none) ++ " END"
  | .introduced set value, _ => set ++ " " ++ value.print
  | .listAgg distinct hasSeparator overflowError orders, a :: rest =>
    let sorted := if hasSeparator then rest.tail else rest
    "LISTAGG" ++ parens (when distinct "DISTINCT " ++ a ++
      clause ", " (if hasSeparator then rest.head? else none) ++
      when overflowError " ON OVERFLOW ERROR") ++
      when (!orders.isEmpty)
        (" WITHIN GROUP (ORDER BY " ++ commas (withOrders sorted orders) ++ ")")
  | .arrayAgg distinct orders hasLimit, a :: rest =>
    "ARRAY_AGG" ++ parens (when distinct "DISTINCT " ++ a ++
      listClause " ORDER BY " (withOrders rest orders) ++
      clause " LIMIT " (if hasLimit then rest.getLast? else none))
  | .grouping words sizes, operands =>
    words ++ " " ++ parens
      (commas ((groupsOf sizes operands).map (printGroup (words != "GROUPING SETS"))))
  | .tuple, operands => parens (commas operands)
  | .index, a :: indexes => a ++ "".intercalate (indexes.map fun i => "[" ++ i ++ "]")
  | .array named, operands => when named "ARRAY" ++ "[" ++ commas operands ++ "]"
  | .filtered, a :: b :: _ => a ++ " FILTER (WHERE " ++ b ++ ")"
  | _, operands => commas operands

def FetchStyle.print (s : FetchStyle) (value : Option String) : String :=
  " FETCH FIRST " ++ clause "" (value.map (· ++ when s.percent " PERCENT" ++ " ")) ++ "ROWS " ++
    if s.withTies then "WITH TIES" else "ONLY"

def TopStyle.print (s : TopStyle) (value : String) : String :=
  " TOP " ++ parens value ++ when s.percent " PERCENT" ++ when s.withTies " WITH TIES"

def ViewStyle.print (s : ViewStyle) (value : String) : String :=
  " LATERAL VIEW" ++ when s.outer " OUTER" ++ " " ++ value ++ " " ++ printNames s.name ++
    listClause " AS " (s.columns.map Name.print)

def JoinKind.words : JoinKind → String
  | .inner => "JOIN"
  | .left => "LEFT JOIN"
  | .right => "RIGHT JOIN"
  | .full => "FULL JOIN"
  | .leftSemi => "LEFT SEMI JOIN"
  | .rightSemi => "RIGHT SEMI JOIN"
  | .leftAnti => "LEFT ANTI JOIN"
  | .rightAnti => "RIGHT ANTI JOIN"
  | .cross => "CROSS JOIN"
  | .crossApply => "CROSS APPLY"
  | .outerApply => "OUTER APPLY"

def printJoin (kind : JoinKind) (rule : JoinRule) (relation : String) (condition : Option String) :
    String :=
  " " ++ (match rule with
    | .natural => "NATURAL "
    | _ => "") ++ kind.words ++ " " ++ relation ++
  match rule with
    | .sharing columns => " USING" ++ parens (commas (columns.map Name.print))
    | _ => clause " ON " condition

def printWindows : List (Name × WindowShape) → List String → List String
  | [], _ => []
  | (name, shape) :: rest, operands =>
    (name.print ++ " AS " ++ parens (shape.print operands)) ::
      printWindows rest (operands.drop shape.size)

def printItems (aliases : List (Option Name)) (texts : List String) : List String :=
  texts.zipWith (fun text asName => text ++ clause " AS " (asName.map Name.print)) aliases

mutual

def Expr.print : Expr → String
  | .column name => name.print
  | .path names => printNames names
  | .placeholder name => name
  | .literal value => value.print
  | .typed type text => type ++ " " ++ quotedText '\'' text
  | .interval value qualifier => "INTERVAL " ++ value.print ++ qualifier
  | .binary op left right => left.print ++ " " ++ op.text ++ " " ++ right.print
  | .between negated value low high =>
    value.print ++ when negated " NOT" ++ " BETWEEN " ++ low.print ++ " AND " ++ high.print
  | .nested inner => parens inner.print
  | .form shape operands => shape.print (Expr.printAll operands)
  | .call name style operands => style.print (printNames name) (Expr.printAll operands)
  | .star table => clause "" (if table.isEmpty then none else some (printNames table ++ ".")) ++ "*"
  | .subquery query => parens query.print
  | .inSubquery negated value query =>
    value.print ++ when negated " NOT" ++ " IN " ++ parens query.print
  | .exists negated query => when negated "NOT " ++ "EXISTS " ++ parens query.print
  | .arrayOf query => "ARRAY" ++ parens query.print

def Expr.printAll : List Expr → List String
  | [] => []
  | e :: es => e.print :: Expr.printAll es

def Expr.print? : Option Expr → Option String
  | none => none
  | some e => some e.print

def Query.print : Query → String
  | ⟨recursive, ctes, body, orderBy, orders, limit, offset, offsetRows, fetch, fetchStyle, locks⟩ =>
    let tables := Cte.printAll ctes
    let fetched := Expr.print? fetch
    when (!tables.isEmpty) ("WITH " ++ when recursive "RECURSIVE " ++ commas tables ++ " ") ++
      body.print ++ listClause " ORDER BY " (withOrders (Expr.printAll orderBy) orders) ++
      clause " LIMIT " (Expr.print? limit) ++
      clause " OFFSET " ((Expr.print? offset).map (· ++ offsetRows)) ++
      clause "" (fetchStyle.map fun s => s.print fetched) ++ "".intercalate (locks.map (" " ++ ·))

def Cte.printAll : List Cte → List String
  | [] => []
  | ⟨table, query, origin⟩ :: rest =>
    (table.print ++ " AS " ++ parens query.print ++ clause " FROM " (origin.map Name.print)) ::
      Cte.printAll rest

def Body.print : Body → String
  | .select select => select.print
  | .query query => parens query.print
  | .combined operator left right => left.print ++ " " ++ operator ++ " " ++ right.print
  | .values explicitRow sizes items =>
    "VALUES " ++ commas ((groupsOf sizes (Expr.printAll items)).map fun group =>
      when explicitRow "ROW" ++ parens (commas group))
  | .table name => "TABLE " ++ ".".intercalate name

def Select.print : Select → String
  | ⟨quantifier, distinctOn, top, topStyle, items, aliases, into, sources, views, viewStyles,
      condition, groupsAll, groupBy, clusterBy, distributeBy, sortBy, having, windows,
      windowOperands, qualify⟩ =>
    let on := Expr.printAll distinctOn
    "SELECT" ++ (match quantifier with
      | .all => ""
      | .distinct => " DISTINCT"
      | .distinctOn => " DISTINCT ON " ++ parens (commas on)) ++
      clause "" ((Expr.print? top).map topStyle.print) ++ " " ++
      commas (printItems aliases (Expr.printAll items)) ++ clause " INTO" into ++
      listClause " FROM " (Source.printAll sources) ++
      "".intercalate ((Expr.printAll views).zipWith (fun text style => style.print text)
        viewStyles) ++
      clause " WHERE " (Expr.print? condition) ++
      (if groupsAll then " GROUP BY ALL" else listClause " GROUP BY " (Expr.printAll groupBy)) ++
      listClause " CLUSTER BY " (Expr.printAll clusterBy) ++
      listClause " DISTRIBUTE BY " (Expr.printAll distributeBy) ++
      listClause " SORT BY " (Expr.printAll sortBy) ++ clause " HAVING " (Expr.print? having) ++
      listClause " WINDOW " (printWindows windows (Expr.printAll windowOperands)) ++
      clause " QUALIFY " (Expr.print? qualify)

def Source.printAll : List Source → List String
  | [] => []
  | s :: rest => s.print :: Source.printAll rest

def Source.print : Source → String
  | ⟨relation, joins⟩ => relation.print ++ Join.printAll joins

def Join.printAll : List Join → String
  | [] => ""
  | ⟨relation, kind, rule, condition⟩ :: rest =>
    printJoin kind rule relation.print (Expr.print? condition) ++ Join.printAll rest

def Relation.print : Relation → String
  | .table name arguments operands asName hints =>
    let given := Expr.printAll operands
    printNames name ++
      clause "" (arguments.map fun names => parens (commas (printArguments names given))) ++
      printAlias asName ++ clause " WITH " (if hints.isEmpty then none
        else some (parens (commas (Expr.printAll hints))))
  | .derived lateral query asName =>
    when lateral "LATERAL " ++ parens query.print ++ printAlias asName
  | .function name arguments operands asName =>
    "LATERAL " ++ printNames name ++
      parens (commas (printArguments arguments (Expr.printAll operands))) ++
      printAlias asName
  | .tableOf value asName => "TABLE" ++ parens value.print ++ printAlias asName
  | .unnest values asName withOffset offsetAlias =>
    "UNNEST" ++ parens (commas (Expr.printAll values)) ++ printAlias asName ++
      when withOffset " WITH OFFSET" ++ clause " AS " (offsetAlias.map Name.print)
  | .nested source asName => parens source.print ++ printAlias asName
  | .pivot inner value column values asName =>
    inner.print ++ " PIVOT" ++ parens (value.print ++ " FOR " ++
      printNames column ++ " IN " ++ parens (commas (values.map Value.print))) ++ printAlias asName
  | .unpivot inner value column columns asName =>
    inner.print ++ " UNPIVOT" ++ parens (value.print ++ " FOR " ++
      column.print ++ " IN " ++ parens (commas (columns.map Name.print))) ++ printAlias asName

end

end BankQuery.Sql
