import BankQuery.Sql.Token

/-!
# Statements as trees

The tree of a query. An expression that is neither a name, a value, a call nor one of the few forms
with a meaning of their own is a `form`: a shape with its operands in the order in which they are
looked at. What only says how a list of expressions is written (directions, names of arguments,
aliases) stands beside the list and not in it.

`Expr.all` and `Query.expressions` list the expressions of a tree, each before those inside it.
-/

namespace BankQuery.Sql

inductive Literal where
  | number (digits : String) (long : Bool)
  | string (text : String)
  | doubleQuoted (text : String)
  | national (text : String)
  | escaped (text : String)
  | hex (text : String)
  | dollar (tag : String) (text : String)
  | bool (value : Bool)
  | null
deriving DecidableEq

/-- A value in a form that holds it itself: no expression of the statement. -/
inductive Value where
  | literal (value : Literal)
  | placeholder (name : String)
deriving DecidableEq

structure CastFormat where
  format : Value
  zone : Option Value
deriving DecidableEq

inductive Comparison where
  | eq
  | lt
  | le
  | gt
  | ge
deriving DecidableEq

inductive BinaryOp where
  | and
  | or
  | compare (by_ : Comparison)
  | other (text : String)
deriving DecidableEq

def Comparison.text : Comparison → String
  | .eq => "="
  | .lt => "<"
  | .le => "<="
  | .gt => ">"
  | .ge => ">="

def BinaryOp.text : BinaryOp → String
  | .and => "AND"
  | .or => "OR"
  | .compare c => c.text
  | .other text => text

structure SortOrder where
  descending : Option Bool := none
  nullsFirst : Option Bool := none
deriving DecidableEq

/-- An end of a window frame; a bounded one has an operand. -/
inductive FrameBound where
  | currentRow
  | preceding (bounded : Bool)
  | following (bounded : Bool)
deriving DecidableEq

structure Frame where
  units : String
  start : FrameBound
  stop : Option FrameBound
deriving DecidableEq

/-- A window: how many expressions it partitions by, its order, and its frame. -/
structure WindowShape where
  partitions : Nat
  orders : List SortOrder
  frame : Option Frame
deriving DecidableEq

inductive Window where
  | named (name : Name)
  | given (shape : WindowShape)
deriving DecidableEq

/-- How a call is written. Its operands are the arguments, the filter, what its window holds, and
the expressions it sorts by. -/
structure CallStyle where
  /-- Whether there are no parentheses. -/
  bare : Bool := false
  distinct : Bool := false
  /-- The names of the arguments, where they are given by name. -/
  arguments : List (Option Name) := []
  filtered : Bool := false
  nulls : Option String := none
  window : Option Window := none
  orders : List SortOrder := []
deriving DecidableEq

/-- What an expression with operands is. -/
inductive Shape where
  | negation
  /-- A sign or another operator before its operand. -/
  | prefixed (operator : String)
  | factorial
  /-- `IS NULL` and the like. -/
  | isTest (test : String)
  | distinctFrom (negated : Bool)
  | inList (negated : Bool)
  | inUnnest (negated : Bool)
  /-- `LIKE` and the like, with an escape character if one is given. -/
  | like (negated : Bool) (operator : String) (escape : Option String)
  /-- A comparison with any or all members of an array. -/
  | quantified (operator quantifier : String)
  | json (operator : String)
  | field (name : Name)
  /-- A cast, with the texts in quotes that stand in its type and with how the value is written
  where that is said. -/
  | cast (word type : String) (quoted : List String) (format : Option CastFormat)
  | atTimeZone (zone : String)
  | extract (field : String)
  | rounding (function : String) (field : Option String)
  | position
  | substring (hasFrom hasFor : Bool)
  | trim (side : Option String) (hasWhat : Bool)
  | overlay (hasFor : Bool)
  | collate (name : List Name)
  | cases (hasOperand : Bool) (branches : Nat) (hasElse : Bool)
  /-- A text literal that names its character set. -/
  | introduced (set : String) (value : Literal)
  | listAgg (distinct hasSeparator overflowError : Bool) (orders : List SortOrder)
  | arrayAgg (distinct : Bool) (orders : List SortOrder) (hasLimit : Bool)
  /-- Grouping sets, a cube or a rollup of groups of these sizes. -/
  | grouping (words : String) (sizes : List Nat)
  | tuple
  | index
  | array (named : Bool)
  | filtered
deriving DecidableEq

structure TableAlias where
  name : Name
  columns : List Name := []
deriving DecidableEq

inductive Quantifier where
  | all
  | distinct
  | distinctOn
deriving DecidableEq

inductive JoinKind where
  | inner
  | left
  | right
  | full
  | leftSemi
  | rightSemi
  | leftAnti
  | rightAnti
  | cross
  | crossApply
  | outerApply
deriving DecidableEq

inductive JoinRule where
  | bare
  | natural
  | sharing (columns : List Name)
deriving DecidableEq

/-- `FETCH FIRST n ROWS ONLY`, where the number is an expression. -/
structure FetchStyle where
  percent : Bool
  withTies : Bool
deriving DecidableEq

structure ViewStyle where
  outer : Bool
  name : List Name
  columns : List Name
deriving DecidableEq

structure TopStyle where
  percent : Bool := false
  withTies : Bool := false
deriving DecidableEq

mutual

inductive Expr where
  | column (name : Name)
  | path (names : List Name)
  | placeholder (name : String)
  | literal (value : Literal)
  /-- A text literal of a named type. -/
  | typed (type text : String)
  /-- An interval with what is written behind its value. -/
  | interval (value : Expr) (qualifier : String)
  | binary (op : BinaryOp) (left right : Expr)
  | between (negated : Bool) (value low high : Expr)
  | nested (inner : Expr)
  | form (shape : Shape) (operands : List Expr)
  | call (name : List Name) (style : CallStyle) (operands : List Expr)
  /-- All columns, of the named table if there is one. -/
  | star (table : List Name)
  | subquery (query : Query)
  | inSubquery (negated : Bool) (value : Expr) (query : Query)
  | exists (negated : Bool) (query : Query)
  | arrayOf (query : Query)

structure Query where
  recursive : Bool
  ctes : List Cte
  body : Body
  orderBy : List Expr
  orders : List SortOrder
  limit : Option Expr
  offset : Option Expr
  offsetRows : String
  fetch : Option Expr
  fetchStyle : Option FetchStyle
  locks : List String

structure Cte where
  table : TableAlias
  query : Query
  origin : Option Name

inductive Body where
  | select (select : Select)
  | query (query : Query)
  | combined (operator : String) (left right : Body)
  | values (explicitRow : Bool) (sizes : List Nat) (items : List Expr)
  | table (name : List String)

structure Select where
  quantifier : Quantifier
  distinctOn : List Expr
  top : Option Expr
  topStyle : TopStyle
  items : List Expr
  aliases : List (Option Name)
  into : Option String
  sources : List Source
  views : List Expr
  viewStyles : List ViewStyle
  condition : Option Expr
  groupsAll : Bool
  groupBy : List Expr
  clusterBy : List Expr
  distributeBy : List Expr
  sortBy : List Expr
  having : Option Expr
  windows : List (Name × WindowShape)
  windowOperands : List Expr
  qualify : Option Expr

structure Source where
  relation : Relation
  joins : List Join

structure Join where
  relation : Relation
  kind : JoinKind
  rule : JoinRule
  condition : Option Expr

inductive Relation where
  /-- A table by its name. With arguments it is a function; `arguments` holds their names. -/
  | table (name : List Name) (arguments : Option (List (Option Name))) (operands : List Expr)
      (asName : Option TableAlias) (hints : List Expr)
  | derived (lateral : Bool) (query : Query) (asName : Option TableAlias)
  | function (name : List Name) (arguments : List (Option Name)) (operands : List Expr)
      (asName : Option TableAlias)
  | tableOf (value : Expr) (asName : Option TableAlias)
  | unnest (values : List Expr) (asName : Option TableAlias) (withOffset : Bool)
      (offsetAlias : Option Name)
  | nested (source : Source) (asName : Option TableAlias)
  | pivot (inner : Relation) (value : Expr) (column : List Name) (values : List Value)
      (asName : Option TableAlias)
  | unpivot (inner : Relation) (value column : Name) (columns : List Name)
      (asName : Option TableAlias)

end

mutual

def Expr.inside : Expr → List Expr
  | .column _ => []
  | .path _ => []
  | .placeholder _ => []
  | .literal _ => []
  | .typed _ _ => []
  | .interval value _ => value :: value.inside
  | .binary _ left right => left :: left.inside ++ right :: right.inside
  | .between _ value low high => value :: value.inside ++ low :: low.inside ++ high :: high.inside
  | .nested inner => inner :: inner.inside
  | .form _ operands => Expr.allOf operands
  | .call _ _ operands => Expr.allOf operands
  | .star _ => []
  | .subquery query => query.expressions
  | .inSubquery _ value query => value :: value.inside ++ query.expressions
  | .exists _ query => query.expressions
  | .arrayOf query => query.expressions

/-- The expressions of a list, each with those inside it. -/
def Expr.allOf : List Expr → List Expr
  | [] => []
  | e :: es => e :: e.inside ++ Expr.allOf es

def Expr.allOfOption : Option Expr → List Expr
  | none => []
  | some e => e :: e.inside

def Query.expressions : Query → List Expr
  | ⟨_, ctes, body, orderBy, _, limit, offset, _, fetch, _, _⟩ =>
    Cte.expressions ctes ++ body.expressions ++ Expr.allOf orderBy ++ Expr.allOfOption limit ++
      Expr.allOfOption offset ++ Expr.allOfOption fetch

def Cte.expressions : List Cte → List Expr
  | [] => []
  | ⟨_, query, _⟩ :: rest => query.expressions ++ Cte.expressions rest

def Body.expressions : Body → List Expr
  | .select select => select.expressions
  | .query query => query.expressions
  | .combined _ left right => left.expressions ++ right.expressions
  | .values _ _ items => Expr.allOf items
  | .table _ => []

def Select.expressions : Select → List Expr
  | ⟨_, distinctOn, top, _, items, _, _, sources, views, _, condition, _, groupBy, clusterBy,
      distributeBy, sortBy, having, _, windowOperands, qualify⟩ =>
    Expr.allOf distinctOn ++ Expr.allOfOption top ++ Expr.allOf items ++
      Source.expressionsOf sources ++ Expr.allOf views ++ Expr.allOfOption condition ++
      Expr.allOf groupBy ++ Expr.allOf clusterBy ++ Expr.allOf distributeBy ++ Expr.allOf sortBy ++
      Expr.allOfOption having ++ Expr.allOf windowOperands ++ Expr.allOfOption qualify

def Source.expressionsOf : List Source → List Expr
  | [] => []
  | s :: rest => s.expressions ++ Source.expressionsOf rest

def Source.expressions : Source → List Expr
  | ⟨relation, joins⟩ => relation.expressions ++ Join.expressions joins

def Join.expressions : List Join → List Expr
  | [] => []
  | ⟨relation, _, _, condition⟩ :: rest =>
    relation.expressions ++ Expr.allOfOption condition ++ Join.expressions rest

def Relation.expressions : Relation → List Expr
  | .table _ _ operands _ hints => Expr.allOf operands ++ Expr.allOf hints
  | .derived _ query _ => query.expressions
  | .function _ _ operands _ => Expr.allOf operands
  | .tableOf value _ => value :: value.inside
  | .unnest values _ _ _ => Expr.allOf values
  | .nested source _ => source.expressions
  | .pivot inner value _ _ _ => inner.expressions ++ value :: value.inside
  | .unpivot inner _ _ _ _ => inner.expressions

end

/-- An expression and all expressions inside it. -/
def Expr.all (e : Expr) : List Expr := e :: e.inside

end BankQuery.Sql
