import BankQuery.Sql.Tree

/-!
# Parts of a tree

`Query.parts` lists all that a query is made of: expressions, bodies of queries, relations and
joins, each before what stands inside it. Every query and every operand of a set operation has a
body, so that a query with one body holds no other query. `Query.expressions_eq` says that the
expressions which are visited are all expressions of the tree.
-/

namespace BankQuery.Sql

inductive Part where
  | expr (e : Expr)
  | body (b : Body)
  | relation (r : Relation)
  | join (j : Join)

namespace Part

def expr? : Part → Option Expr
  | .expr e => some e
  | _ => none

def body? : Part → Option Body
  | .body b => some b
  | _ => none

def relation? : Part → Option Relation
  | .relation r => some r
  | _ => none

end Part

mutual

def Expr.parts : Expr → List Part
  | .column _ => []
  | .path _ => []
  | .placeholder _ => []
  | .literal _ => []
  | .typed _ _ => []
  | .interval value _ => .expr value :: value.parts
  | .binary _ left right => .expr left :: left.parts ++ .expr right :: right.parts
  | .between _ value low high =>
    .expr value :: value.parts ++ .expr low :: low.parts ++ .expr high :: high.parts
  | .nested inner => .expr inner :: inner.parts
  | .form _ operands => Expr.partsOf operands
  | .call _ _ operands => Expr.partsOf operands
  | .star _ => []
  | .subquery query => query.parts
  | .inSubquery _ value query => .expr value :: value.parts ++ query.parts
  | .exists _ query => query.parts
  | .arrayOf query => query.parts

def Expr.partsOf : List Expr → List Part
  | [] => []
  | e :: es => .expr e :: e.parts ++ Expr.partsOf es

def Expr.partsOfOption : Option Expr → List Part
  | none => []
  | some e => .expr e :: e.parts

def Query.parts : Query → List Part
  | ⟨_, ctes, body, orderBy, _, limit, offset, _, fetch, _, _⟩ =>
    Cte.parts ctes ++ .body body :: body.parts ++ Expr.partsOf orderBy ++
      Expr.partsOfOption limit ++ Expr.partsOfOption offset ++ Expr.partsOfOption fetch

def Cte.parts : List Cte → List Part
  | [] => []
  | ⟨_, query, _⟩ :: rest => query.parts ++ Cte.parts rest

def Body.parts : Body → List Part
  | .select select => select.parts
  | .query query => query.parts
  | .combined _ left right => .body left :: left.parts ++ .body right :: right.parts
  | .values _ _ items => Expr.partsOf items
  | .table _ => []

def Select.parts : Select → List Part
  | ⟨_, distinctOn, top, _, items, _, _, sources, views, _, condition, _, groupBy, clusterBy,
      distributeBy, sortBy, having, _, windowOperands, qualify⟩ =>
    Expr.partsOf distinctOn ++ Expr.partsOfOption top ++ Expr.partsOf items ++
      Source.partsOf sources ++ Expr.partsOf views ++ Expr.partsOfOption condition ++
      Expr.partsOf groupBy ++ Expr.partsOf clusterBy ++ Expr.partsOf distributeBy ++
      Expr.partsOf sortBy ++ Expr.partsOfOption having ++ Expr.partsOf windowOperands ++
      Expr.partsOfOption qualify

def Source.partsOf : List Source → List Part
  | [] => []
  | s :: rest => s.parts ++ Source.partsOf rest

def Source.parts : Source → List Part
  | ⟨relation, joins⟩ => .relation relation :: relation.parts ++ Join.partsOf joins

def Join.partsOf : List Join → List Part
  | [] => []
  | ⟨relation, kind, rule, condition⟩ :: rest =>
    .join ⟨relation, kind, rule, condition⟩ :: .relation relation :: relation.parts ++
      Expr.partsOfOption condition ++ Join.partsOf rest

def Relation.parts : Relation → List Part
  | .table _ _ operands _ hints => Expr.partsOf operands ++ Expr.partsOf hints
  | .derived _ query _ => query.parts
  | .function _ _ operands _ => Expr.partsOf operands
  | .tableOf value _ => .expr value :: value.parts
  | .unnest values _ _ _ => Expr.partsOf values
  | .nested source _ => source.parts
  | .pivot inner value _ _ _ => .relation inner :: inner.parts ++ .expr value :: value.parts
  | .unpivot inner _ _ _ _ => .relation inner :: inner.parts

end

/-- The bodies of a query and of all queries inside it. -/
def Query.bodies (q : Query) : List Body := q.parts.filterMap Part.body?

def Query.relations (q : Query) : List Relation := q.parts.filterMap Part.relation?

@[simp] theorem filterMap_expr?_cons_expr (e : Expr) (ps : List Part) :
    (Part.expr e :: ps).filterMap Part.expr? = e :: ps.filterMap Part.expr? := rfl

@[simp] theorem filterMap_expr?_cons_body (b : Body) (ps : List Part) :
    (Part.body b :: ps).filterMap Part.expr? = ps.filterMap Part.expr? := rfl

@[simp] theorem filterMap_expr?_cons_relation (r : Relation) (ps : List Part) :
    (Part.relation r :: ps).filterMap Part.expr? = ps.filterMap Part.expr? := rfl

@[simp] theorem filterMap_expr?_cons_join (j : Join) (ps : List Part) :
    (Part.join j :: ps).filterMap Part.expr? = ps.filterMap Part.expr? := rfl

mutual

theorem Expr.inside_eq : ∀ e : Expr, e.inside = e.parts.filterMap Part.expr?
  | .column _ | .path _ | .placeholder _ | .literal _ | .typed _ _ | .star _ => by
    simp [Expr.inside, Expr.parts]
  | .interval value _ => by simp [Expr.inside, Expr.parts, Expr.inside_eq value]
  | .binary _ left right => by
    simp [Expr.inside, Expr.parts, Expr.inside_eq left, Expr.inside_eq right]
  | .between _ value low high => by
    simp [Expr.inside, Expr.parts, Expr.inside_eq value, Expr.inside_eq low, Expr.inside_eq high]
  | .nested inner => by simp [Expr.inside, Expr.parts, Expr.inside_eq inner]
  | .form _ operands => by simp [Expr.inside, Expr.parts, Expr.allOf_eq operands]
  | .call _ _ operands => by simp [Expr.inside, Expr.parts, Expr.allOf_eq operands]
  | .subquery query => by simp [Expr.inside, Expr.parts, Query.expressions_eq query]
  | .inSubquery _ value query => by
    simp [Expr.inside, Expr.parts, Expr.inside_eq value, Query.expressions_eq query]
  | .exists _ query => by simp [Expr.inside, Expr.parts, Query.expressions_eq query]
  | .arrayOf query => by simp [Expr.inside, Expr.parts, Query.expressions_eq query]

theorem Expr.allOf_eq : ∀ es : List Expr, Expr.allOf es = (Expr.partsOf es).filterMap Part.expr?
  | [] => by simp [Expr.allOf, Expr.partsOf]
  | e :: es => by simp [Expr.allOf, Expr.partsOf, Expr.inside_eq e, Expr.allOf_eq es]

theorem Expr.allOfOption_eq : ∀ e : Option Expr,
    Expr.allOfOption e = (Expr.partsOfOption e).filterMap Part.expr?
  | none => by simp [Expr.allOfOption, Expr.partsOfOption]
  | some e => by simp [Expr.allOfOption, Expr.partsOfOption, Expr.inside_eq e]

/-- The expressions that are visited are all expressions of the tree, in its order. -/
theorem Query.expressions_eq : ∀ q : Query, q.expressions = q.parts.filterMap Part.expr?
  | ⟨_, ctes, body, orderBy, _, limit, offset, _, fetch, _, _⟩ => by
    simp [Query.expressions, Query.parts, Cte.expressions_eq ctes, Body.expressions_eq body,
      Expr.allOf_eq orderBy, Expr.allOfOption_eq limit, Expr.allOfOption_eq offset,
      Expr.allOfOption_eq fetch]

theorem Cte.expressions_eq : ∀ ctes : List Cte,
    Cte.expressions ctes = (Cte.parts ctes).filterMap Part.expr?
  | [] => by simp [Cte.expressions, Cte.parts]
  | ⟨_, query, _⟩ :: rest => by
    simp [Cte.expressions, Cte.parts, Query.expressions_eq query, Cte.expressions_eq rest]

theorem Body.expressions_eq : ∀ b : Body, b.expressions = b.parts.filterMap Part.expr?
  | .select select => by simp [Body.expressions, Body.parts, Select.expressions_eq select]
  | .query query => by simp [Body.expressions, Body.parts, Query.expressions_eq query]
  | .combined _ left right => by
    simp [Body.expressions, Body.parts, Body.expressions_eq left, Body.expressions_eq right]
  | .values _ _ items => by simp [Body.expressions, Body.parts, Expr.allOf_eq items]
  | .table _ => by simp [Body.expressions, Body.parts]

theorem Select.expressions_eq : ∀ s : Select, s.expressions = s.parts.filterMap Part.expr?
  | ⟨_, distinctOn, top, _, items, _, _, sources, views, _, condition, _, groupBy, clusterBy,
      distributeBy, sortBy, having, _, windowOperands, qualify⟩ => by
    simp [Select.expressions, Select.parts, Expr.allOf_eq distinctOn, Expr.allOfOption_eq top,
      Expr.allOf_eq items, Source.expressionsOf_eq sources, Expr.allOf_eq views,
      Expr.allOfOption_eq condition, Expr.allOf_eq groupBy, Expr.allOf_eq clusterBy,
      Expr.allOf_eq distributeBy, Expr.allOf_eq sortBy, Expr.allOfOption_eq having,
      Expr.allOf_eq windowOperands, Expr.allOfOption_eq qualify]

theorem Source.expressionsOf_eq : ∀ ss : List Source,
    Source.expressionsOf ss = (Source.partsOf ss).filterMap Part.expr?
  | [] => by simp [Source.expressionsOf, Source.partsOf]
  | s :: rest => by
    simp [Source.expressionsOf, Source.partsOf, Source.expressions_eq s,
      Source.expressionsOf_eq rest]

theorem Source.expressions_eq : ∀ s : Source, s.expressions = s.parts.filterMap Part.expr?
  | ⟨relation, joins⟩ => by
    simp [Source.expressions, Source.parts, Relation.expressions_eq relation,
      Join.expressions_eq joins]

theorem Join.expressions_eq : ∀ js : List Join,
    Join.expressions js = (Join.partsOf js).filterMap Part.expr?
  | [] => by simp [Join.expressions, Join.partsOf]
  | ⟨relation, _, _, condition⟩ :: rest => by
    simp [Join.expressions, Join.partsOf, Relation.expressions_eq relation,
      Expr.allOfOption_eq condition, Join.expressions_eq rest]

theorem Relation.expressions_eq : ∀ r : Relation, r.expressions = r.parts.filterMap Part.expr?
  | .table _ _ operands _ hints => by
    simp [Relation.expressions, Relation.parts, Expr.allOf_eq operands, Expr.allOf_eq hints]
  | .derived _ query _ => by simp [Relation.expressions, Relation.parts, Query.expressions_eq query]
  | .function _ _ operands _ => by simp [Relation.expressions, Relation.parts, Expr.allOf_eq operands]
  | .tableOf value _ => by simp [Relation.expressions, Relation.parts, Expr.inside_eq value]
  | .unnest values _ _ _ => by simp [Relation.expressions, Relation.parts, Expr.allOf_eq values]
  | .nested source _ => by simp [Relation.expressions, Relation.parts, Source.expressions_eq source]
  | .pivot inner value _ _ _ => by
    simp [Relation.expressions, Relation.parts, Relation.expressions_eq inner, Expr.inside_eq value]
  | .unpivot inner _ _ _ _ => by
    simp [Relation.expressions, Relation.parts, Relation.expressions_eq inner]

end

end BankQuery.Sql
