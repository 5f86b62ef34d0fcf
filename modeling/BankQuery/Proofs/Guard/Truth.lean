import BankQuery.Proofs.Guard.TimeBound

/-!
# What a condition is true of

A condition may come out true, false or unknown on a row. An `Evaluation` is any way to value its
operands, its comparisons and its other predicates; AND, OR, NOT, BETWEEN and parentheses then mean
what they mean in the three-valued logic of SQL. Under every evaluation a condition is true exactly
where all its conjuncts are (`Evaluation.truth_conjuncts`), so a row of which it is true makes each
bound among them true.
-/

namespace BankQuery.Guard

open Sql

inductive Truth where
  | holds
  | fails
  | unknown
deriving DecidableEq

namespace Truth

def not : Truth → Truth
  | holds => fails
  | fails => holds
  | unknown => unknown

def and : Truth → Truth → Truth
  | fails, _ => fails
  | _, fails => fails
  | holds, t => t
  | unknown, _ => unknown

def or (s t : Truth) : Truth := (s.not.and t.not).not

/-- All of a list, which is true where there is none. -/
def all (ts : List Truth) : Truth := ts.foldr and holds

@[simp] theorem holds_and (t : Truth) : holds.and t = t := by cases t <;> rfl

@[simp] theorem and_holds (t : Truth) : t.and holds = t := by cases t <;> rfl

theorem and_assoc (r s t : Truth) : (r.and s).and t = r.and (s.and t) := by
  cases r <;> cases s <;> cases t <;> rfl

theorem and_eq_holds_iff {s t : Truth} : s.and t = holds ↔ s = holds ∧ t = holds := by
  cases s <;> cases t <;> decide

@[simp] theorem all_nil : all [] = holds := rfl

@[simp] theorem all_cons (t : Truth) (ts : List Truth) : all (t :: ts) = t.and (all ts) := rfl

theorem all_append (ss ts : List Truth) : all (ss ++ ts) = (all ss).and (all ts) := by
  induction ss with
  | nil => rw [List.nil_append, all_nil, holds_and]
  | cons s ss ih => rw [List.cons_append, all_cons, all_cons, ih, and_assoc]

theorem all_eq_holds_iff {ts : List Truth} : all ts = holds ↔ ∀ t ∈ ts, t = holds := by
  induction ts with
  | nil => simp
  | cons t ts ih => rw [all_cons, and_eq_holds_iff, List.forall_mem_cons, ih]

end Truth

/-- What a row and the bound values make of the expressions. Values are of any kind, the missing one
among them, and what a comparison or another predicate makes of them is free. -/
structure Evaluation (V : Type) where
  value : Expr → V
  compare : Comparison → V → V → Truth
  other : Expr → Truth

namespace Evaluation

variable {V : Type} (v : Evaluation V)

def within (x low high : Expr) : Truth :=
  (v.compare .ge (v.value x) (v.value low)).and (v.compare .le (v.value x) (v.value high))

def truth : Expr → Truth
  | .binary .and left right => (truth left).and (truth right)
  | .binary .or left right => (truth left).or (truth right)
  | .binary (.compare op) left right => v.compare op (v.value left) (v.value right)
  | .between negated x low high =>
    if negated then (v.within x low high).not else v.within x low high
  | .nested inner => truth inner
  | .form .negation [inner] => (truth inner).not
  | e => v.other e

/-- A condition is the conjunction of its conjuncts, not only where it is true. -/
theorem truth_eq_all_conjuncts (w : Expr) :
    v.truth w = Truth.all ((conjuncts w).map v.truth) := by
  fun_induction conjuncts w with
  | case1 left right ihl ihr =>
    rw [truth, List.map_append, Truth.all_append, ← ihl, ← ihr]
  | case2 inner ih => rw [truth, ih]
  | case3 w _ _ => simp

theorem truth_eq_holds_iff (w : Expr) :
    v.truth w = .holds ↔ ∀ e ∈ conjuncts w, v.truth e = .holds := by
  rw [truth_eq_all_conjuncts, Truth.all_eq_holds_iff, List.forall_mem_map]

variable {v}

/-- Where a condition is true, the bounds among its conjuncts are. -/
theorem exists_bound_of_truth {w : Expr} {p : Expr → Bool} (hw : v.truth w = .holds)
    (h : HoldsToValues w p) :
    ∃ e ∈ conjuncts w, ∃ x, Bounds e x ∧ p x = true ∧ v.truth e = .holds := by
  obtain ⟨e, he, x, hx, hp⟩ := h
  exact ⟨e, he, x, hx, hp, (v.truth_eq_holds_iff w).mp hw e he⟩

/-- A selection that is bounded in time reads rows only on which a comparison of the time column
with bound values is true. -/
theorem exists_bound_of_isTimeBounded {select : Select} {column : String}
    (h : isTimeBounded column select = true) :
    ∃ condition, select.condition = some condition ∧ (v.truth condition = .holds →
      ∃ e x, Bounds e x ∧ isColumn column x = true ∧ v.truth e = .holds) := by
  obtain ⟨condition, hcondition, hholds⟩ := isTimeBounded_iff.mp h
  refine ⟨condition, hcondition, fun hw => ?_⟩
  obtain ⟨e, -, x, hx, hp, he⟩ := exists_bound_of_truth hw hholds
  exact ⟨e, x, hx, hp, he⟩

variable (v)

/-- A condition is true exactly where all its conjuncts are. So where some conjunct bounds the
column in time, every row of which the condition is true makes such a comparison of that column
true. -/
theorem truth_conjuncts (w : Expr) (column : String) :
    (v.truth w = .holds ↔ ∀ e ∈ conjuncts w, v.truth e = .holds) ∧
      ((conjuncts w).any (isTimeBound column) = true → v.truth w = .holds →
        ∃ e ∈ conjuncts w, ∃ x, Bounds e x ∧ isColumn column x = true ∧ v.truth e = .holds) := by
  refine ⟨v.truth_eq_holds_iff w, fun hbound hw => ?_⟩
  exact exists_bound_of_truth hw (holdsToValues_iff.mpr hbound)

def compareNumbers (op : Comparison) (a b : Option Nat) : Truth :=
  match a, b with
  | some a, some b =>
    match op with
    | .eq => if a = b then .holds else .fails
    | .lt => if a < b then .holds else .fails
    | .le => if a ≤ b then .holds else .fails
    | .gt => if b < a then .holds else .fails
    | .ge => if b ≤ a then .holds else .fails
  | _, _ => .unknown

/-- The evaluation by a row of numbers and bound numbers, in which every other predicate is
unknown. -/
def ofNumbers (row bound : String → Option Nat) : Evaluation (Option Nat) where
  value
    | .column name => row name.text
    | .placeholder name => bound name
    | _ => none
  compare := compareNumbers
  other _ := .unknown

/-- `(mes BETWEEN $1 AND $2) AND NOT (saldo < $3 OR mes = saldo)` -/
def boundedCondition : Expr :=
  .binary .and
    (.nested (.between false (.column ⟨"mes", none⟩) (.placeholder "$1") (.placeholder "$2")))
    (.form .negation [.nested (.binary .or
      (.binary (.compare .lt) (.column ⟨"saldo", none⟩) (.placeholder "$3"))
      (.binary (.compare .eq) (.column ⟨"mes", none⟩) (.column ⟨"saldo", none⟩)))])

/-- A row of the month 5 between the months 3 and 7, with a balance of 9 that is not below 4. -/
def boundedRow : Evaluation (Option Nat) :=
  ofNumbers ([("mes", 5), ("saldo", 9)].lookup ·) ([("$1", 3), ("$2", 7), ("$3", 4)].lookup ·)

theorem truth_conjuncts_boundedRow :
    boundedRow.truth boundedCondition = .holds ∧
      (∀ e ∈ conjuncts boundedCondition, boundedRow.truth e = .holds) ∧
      ∃ e ∈ conjuncts boundedCondition, ∃ x, Bounds e x ∧ isColumn "MES" x = true ∧
        boundedRow.truth e = .holds := by
  have hw : boundedRow.truth boundedCondition = .holds := by decide
  have hbound : (conjuncts boundedCondition).any (isTimeBound "MES") = true := by decide
  obtain ⟨hexact, hrows⟩ := boundedRow.truth_conjuncts boundedCondition "MES"
  exact ⟨hw, hexact.mp hw, hrows hbound hw⟩

end Evaluation

end BankQuery.Guard
