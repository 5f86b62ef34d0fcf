import BankQuery.Proofs.Guard.Frame

/-!
# The bound in time of a statement that is let through

A statement that is no limited ranking is let through only if its condition holds a time column to
bound values. `check_bounds_time` says which column that may be: one with the name of the first
table's time column, of any of the tables that are read. So the first table itself is bounded where
it is the only one, and among several where a column is told by the first table's label.
-/

namespace BankQuery.Guard

open Sql

variable {schema : Schema} {c : Candidate} {query : Query} {select : Select} {primary : Table}
  {others : List Table}

/-- `Bounds e x` if `e` compares `x` with a bound value or says that it lies between two. -/
inductive Bounds : Expr → Expr → Prop
  | range (x : Expr) (low high : String) :
      Bounds (.between false x (.placeholder low) (.placeholder high)) x
  | left (op : Comparison) (x : Expr) (name : String) :
      Bounds (.binary (.compare op) x (.placeholder name)) x
  | right (op : Comparison) (name : String) (x : Expr) :
      Bounds (.binary (.compare op) (.placeholder name) x) x

def boundsAny (p : Expr → Bool) : Expr → Bool
  | .between false value low high => p value && isPlaceholder low && isPlaceholder high
  | .binary (.compare _) left right =>
    (p left && isPlaceholder right) || (isPlaceholder left && p right)
  | _ => false

theorem isPlaceholder_iff {e : Expr} : isPlaceholder e = true ↔ ∃ name, e = .placeholder name := by
  cases e with
  | placeholder name => simp [isPlaceholder, placeholder?]
  | _ => simp [isPlaceholder, placeholder?]

theorem boundsAny_iff {p : Expr → Bool} {e : Expr} :
    boundsAny p e = true ↔ ∃ x, Bounds e x ∧ p x = true := by
  constructor
  · intro h
    unfold boundsAny at h
    split at h
    · rw [Bool.and_eq_true, Bool.and_eq_true, isPlaceholder_iff, isPlaceholder_iff] at h
      obtain ⟨⟨hp, low, rfl⟩, high, rfl⟩ := h
      exact ⟨_, .range _ low high, hp⟩
    · rw [Bool.or_eq_true, Bool.and_eq_true, Bool.and_eq_true, isPlaceholder_iff,
        isPlaceholder_iff] at h
      obtain ⟨hp, name, rfl⟩ | ⟨⟨name, rfl⟩, hp⟩ := h
      · exact ⟨_, .left _ _ name, hp⟩
      · exact ⟨_, .right _ name _, hp⟩
    · cases h
  · rintro ⟨x, hx, hp⟩
    cases hx with
    | range low high => simp [boundsAny, hp, isPlaceholder, placeholder?]
    | left op name => simp [boundsAny, hp, isPlaceholder, placeholder?]
    | right op name => simp [boundsAny, hp, isPlaceholder, placeholder?]

theorem Bounds.mem_all {e x : Expr} (h : Bounds e x) : x ∈ e.all := by
  cases h with
  | range low high => simp [Expr.all, Expr.inside]
  | left op name => simp [Expr.all, Expr.inside]
  | right op name => simp [Expr.all, Expr.inside]

/-- A conjunct of a condition stands in it with all that stands inside it. -/
theorem all_subset_of_mem_conjuncts {w e : Expr} (h : e ∈ conjuncts w) : e.all ⊆ w.all := by
  fun_induction conjuncts w with
  | case1 left right ihl ihr =>
    rw [Expr.all.eq_1 (.binary .and left right), Expr.inside]
    rcases List.mem_append.mp h with hl | hr
    · exact fun x hx => List.mem_cons_of_mem _ (List.mem_append_left _ (ihl hl hx))
    · exact fun x hx => List.mem_cons_of_mem _ (List.mem_append_right _ (ihr hr hx))
  | case2 inner ih =>
    rw [Expr.all.eq_1 (.nested inner), Expr.inside]
    exact fun x hx => List.mem_cons_of_mem _ (ih h hx)
  | case3 w _ _ =>
    obtain rfl := List.mem_singleton.mp h
    exact fun x hx => hx

theorem Passes.mem_expressions_of_condition (h : Passes schema c query select primary others)
    {w : Expr} (hw : select.condition = some w) : w.all ⊆ query.expressions := by
  intro e he
  have hb := h.body
  cases query with
  | mk recursive ctes body orderBy orders limit offset offsetRows fetch fetchStyle locks =>
    obtain rfl : body = .select select := hb
    cases select with
    | mk quantifier distinctOn top topStyle items aliases into sources views viewStyles condition =>
      obtain rfl : condition = some w := hw
      rw [Expr.all] at he
      rw [Query.expressions, Body.expressions, Select.expressions, Expr.allOfOption.eq_2]
      simp only [List.mem_append, he, true_or, or_true]

/-- Whether `x` is the column of one of the tables, by its name alone or behind the table's. -/
def isColumnOfSome (column : String) (tables : List Table) : Expr → Bool
  | .column name => Text.sameAscii name.text column && tables.any (·.hasColumn name.text)
  | .path [table, name] =>
    Text.sameAscii name.text column &&
      tables.any fun t => Text.sameAscii t.name table.text && t.hasColumn name.text
  | _ => false

theorem isColumnOfSome_of_checkExpr {column : String} {tables : List Table} {x : Expr}
    (h : checkExpr tables x = .ok ()) (hx : isColumn column x = true) :
    isColumnOfSome column tables x = true := by
  cases x with
  | column name =>
    rw [checkExpr, demand_eq_ok_iff] at h
    exact Bool.and_eq_true_iff.mpr ⟨hx, h⟩
  | path names =>
    rw [checkExpr, demand_eq_ok_iff] at h
    unfold isKnownPath at h
    split at h
    · exact Bool.and_eq_true_iff.mpr ⟨hx, h⟩
    · cases h
  | _ => cases hx

end BankQuery.Guard

namespace BankQuery.Sql

def Relation.label? : Relation → Option Name
  | .table names _ _ asName _ => (asName.map TableAlias.name).or names.getLast?
  | _ => none

def Relation.labels (r : Relation) (column : String) : Expr → Bool
  | .path [label, name] =>
    r.label?.any (Text.sameAscii ·.text label.text) && Text.sameAscii name.text column
  | _ => false

end BankQuery.Sql

namespace BankQuery.Guard

open Sql

variable {schema : Schema} {c : Candidate} {query : Query} {select : Select} {primary : Table}
  {others : List Table}

/-- A conjunct of the condition holds a value of which `p` holds to bound values. -/
def HoldsToValues (condition : Expr) (p : Expr → Bool) : Prop :=
  ∃ e ∈ conjuncts condition, ∃ x, Bounds e x ∧ p x = true

theorem holdsToValues_iff {condition : Expr} {p : Expr → Bool} :
    HoldsToValues condition p ↔ (conjuncts condition).any (boundsAny p) = true := by
  rw [HoldsToValues, List.any_eq_true]
  exact exists_congr fun e => and_congr_right fun _ => boundsAny_iff.symm

/-- Whether `x` is the time column of the first of the relations that are read. A relation on its
own is told by the name of its table or by nothing, one of several by its label. -/
def isOwnTime (primary : Table) (first : Relation) (rest : List Relation) (x : Expr) : Bool :=
  if rest.isEmpty then isColumnOfSome primary.timeColumn [primary] x
  else first.labels primary.timeColumn x

theorem isTimeBounded_iff {column : String} :
    isTimeBounded column select = true ↔
      ∃ condition, select.condition = some condition ∧
        HoldsToValues condition (isColumn column) := by
  unfold isTimeBounded
  cases select.condition with
  | none => simp
  | some condition =>
    simp only [Option.some.injEq, exists_eq_left', holdsToValues_iff]
    exact Iff.rfl

/-- The condition of a statement that is let through and is no limited ranking holds to bound values
a column with the name of the first table's time column. The column is one of any table that is
read; it is that of the first relation if there is no other one, or else if some conjunct tells it
by the label of the first. -/
theorem check_bounds_time (schema : Schema) (c : Candidate) (h : check schema c = .ok ()) :
    ∃ query select first rest primary others, statements? c.statement = some [some query] ∧
      query.body = .select select ∧ relationsOf select = first :: rest ∧
      tableOf schema first = .ok primary ∧ rest.mapM (tableOf schema) = .ok others ∧
      (isLimitedRanking c query = false → ∃ condition, select.condition = some condition ∧
        HoldsToValues condition (isColumnOfSome primary.timeColumn (primary :: others)) ∧
        (HoldsToValues condition (isOwnTime primary first rest) ↔
          rest = [] ∨ HoldsToValues condition (first.labels primary.timeColumn))) := by
  obtain ⟨-, -, query, hq, select, primary, others, hp⟩ := check_eq_ok_iff.mp h
  have htables := hp.tables
  cases hr : relationsOf select with
  | nil =>
    rw [hr] at htables
    cases htables
  | cons first rest =>
    rw [hr] at htables
    obtain ⟨_, _, hfirst, hrest, heq⟩ := mapM_cons_eq_ok htables
    cases heq
    refine ⟨query, select, first, rest, primary, others, hq, hp.body, hr, hfirst, hrest,
      fun hlimited => ?_⟩
    have hbounded := hp.bounded
    rw [hlimited, Bool.or_false, isTimeBounded_iff] at hbounded
    obtain ⟨condition, hc, e, he, x, hb, hx⟩ := hbounded
    have hchecked : checkExpr (primary :: others) x = .ok () :=
      hp.exprs x (hp.mem_expressions_of_condition hc (all_subset_of_mem_conjuncts he hb.mem_all))
    have hsome := isColumnOfSome_of_checkExpr hchecked hx
    refine ⟨condition, hc, ⟨e, he, x, hb, hsome⟩, ?_⟩
    by_cases hn : rest = []
    · -- The only table is the one whose column was checked.
      subst hn
      cases hrest
      exact ⟨fun _ => .inl rfl, fun _ => ⟨e, he, x, hb, hsome⟩⟩
    · have hown : isOwnTime primary first rest = first.labels primary.timeColumn := by
        funext x
        rw [isOwnTime, if_neg (by simpa using hn)]
      rw [hown]
      exact ⟨.inr, fun hor => hor.resolve_left hn⟩

theorem check_bounds_time_sharing :
    check Registry.standard.schema (candidateOf sharingStatement) = .ok () ∧
    ∃ query select first rest primary others,
      statements? sharingStatement = some [some query] ∧
      query.body = .select select ∧ relationsOf select = first :: rest ∧
      tableOf Registry.standard.schema first = .ok primary ∧
      rest.mapM (tableOf Registry.standard.schema) = .ok others ∧
      (isLimitedRanking (candidateOf sharingStatement) query = false →
        ∃ condition, select.condition = some condition ∧
          HoldsToValues condition (isColumnOfSome primary.timeColumn (primary :: others)) ∧
          (HoldsToValues condition (isOwnTime primary first rest) ↔
            rest = [] ∨ HoldsToValues condition (first.labels primary.timeColumn))) :=
  ⟨check_sharing,
    check_bounds_time Registry.standard.schema (candidateOf sharingStatement) check_sharing⟩

def holdsFirst (schema : Schema) (query : Query) : Bool :=
  query.select?.any fun select => select.condition.any fun condition =>
    (relationsOf select).head?.any fun first => (tableOf schema first).toOption.any fun primary =>
      (conjuncts condition).any (boundsAny (isOwnTime primary first (relationsOf select).tail))

theorem holdsFirst_of_isOwnTime {first : Relation} {rest : List Relation} {condition : Expr}
    (hb : query.body = .select select) (hr : relationsOf select = first :: rest)
    (ht : tableOf schema first = .ok primary) (hc : select.condition = some condition)
    (h : HoldsToValues condition (isOwnTime primary first rest)) :
    holdsFirst schema query = true := by
  have hs : query.select? = some select := by rw [Query.select?, hb]
  rw [holdsFirst, hs, Option.any_some, hc, Option.any_some, hr, List.head?_cons, Option.any_some,
    ht, List.tail_cons]
  exact holdsToValues_iff.mp h

def otherTimeStatement : String :=
  "SELECT monthly_kpis.imor FROM monthly_kpis, segment_kpis WHERE segment_kpis.period = $1"

/-- A statement that is let through and is no limited ranking may leave the first table without
bounds in time, and bound another one. -/
theorem check_leaves_first_unbounded : ¬ ∀ (schema : Schema) (c : Candidate),
    check schema c = .ok () → ∃ query select first rest primary,
      statements? c.statement = some [some query] ∧ query.body = .select select ∧
      relationsOf select = first :: rest ∧ tableOf schema first = .ok primary ∧
      (isLimitedRanking c query = false → ∃ condition, select.condition = some condition ∧
        HoldsToValues condition (isOwnTime primary first rest)) := by
  intro hall
  have hc : check Registry.standard.schema (candidateOf otherTimeStatement) = .ok () :=
    eq_ok_of_isOk (by decide +kernel)
  have hunbounded : (queryOf otherTimeStatement).toOption.map (fun query =>
      (isLimitedRanking (candidateOf otherTimeStatement) query,
        holdsFirst Registry.standard.schema query)) = some (false, false) := by
    decide +kernel
  obtain ⟨query, select, first, rest, primary, hs, hb, hr, ht, hbounded⟩ := hall _ _ hc
  have hfound := eq_of_queryOf hs hunbounded
  rw [Prod.mk.injEq] at hfound
  obtain ⟨hlimited, hfirst⟩ := hfound
  obtain ⟨condition, hw, hh⟩ := hbounded hlimited
  have hholds := holdsFirst_of_isOwnTime hb hr ht hw hh
  rw [hfirst] at hholds
  cases hholds

end BankQuery.Guard
