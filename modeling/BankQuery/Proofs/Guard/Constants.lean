import BankQuery.Proofs.Guard.Frame

/-!
# Constants in a statement that is let through

A value in a statement is bound behind a placeholder or written into it. A constant that is an
expression is turned away. Some forms hold a constant themselves and have no expression for it:
escape characters, names of time zones, text with its character set, what is in quotes in the type
of a cast, and how the value of a cast is written. `check_constants` says that these are the
constants that a statement may keep.

Lengths in types are no constants, nor are tests such as `IS NULL`, and a name stays a name where it
is written in quotes.
-/

namespace BankQuery.Sql

def Expr.isConstant : Expr → Bool
  | .literal _ | .typed _ _ | .interval _ _ => true
  | _ => false

def Value.literal? : Value → Option Literal
  | .literal value => some value
  | .placeholder _ => none

def CastFormat.values (f : CastFormat) : List Value := f.format :: f.zone.toList

/-- The constants that a form holds next to its operands. -/
def Shape.constants : Shape → List Literal
  | .like _ _ escape => (escape.map Literal.string).toList
  | .atTimeZone zone => [.string zone]
  | .introduced _ value => [value]
  | .cast _ _ quoted format =>
    quoted.map .string ++ (format.toList.flatMap CastFormat.values).filterMap Value.literal?
  | _ => []

def Expr.heldConstants : Expr → List Literal
  | .form shape _ => shape.constants
  | _ => []

def Relation.turnedValues : Relation → List Value
  | .pivot _ _ _ values _ => values
  | _ => []

def Part.heldConstants : Part → List Literal
  | .expr e => e.heldConstants
  | .relation r => r.turnedValues.filterMap Value.literal?
  | _ => []

/-- The constants in a query that are no expressions. -/
def Query.heldConstants (q : Query) : List Literal := q.parts.flatMap Part.heldConstants

structure Query.IsFreeOfConstants (q : Query) : Prop where
  exprs : ∀ e ∈ q.expressions, e.isConstant = false
  held : q.heldConstants = []

theorem Relation.turnedValues_of_isTable {r : Relation} (h : r.isTable = true) :
    r.turnedValues = [] := by
  cases r with
  | table _ _ _ _ _ => rfl
  | _ => cases h

end BankQuery.Sql

namespace BankQuery.Guard

open Sql

variable {schema : Schema} {c : Candidate} {query : Query} {select : Select} {primary : Table}
  {others : List Table}

theorem isConstant_of_checkExpr {tables : List Table} {e : Expr}
    (h : checkExpr tables e = .ok ()) : e.isConstant = false := by
  cases e with
  | literal _ | typed _ _ | interval _ _ => cases h
  | _ => rfl

theorem Passes.heldConstants_eq (h : Passes schema c query select primary others)
    (ha : ∀ e ∈ query.expressions, e.isArrayOf = false) :
    query.heldConstants = query.expressions.flatMap Expr.heldConstants := by
  refine h.flatMap_parts_eq ha (fun _ => rfl) (fun _ => rfl) fun r hr => ?_
  rw [Part.heldConstants, Relation.turnedValues_of_isTable hr, List.filterMap_nil]

/-- No expression of a statement that is let through is a constant. So no constant is written in it
if and only if none of its forms holds one, and where no query stands inside the selection these
forms are expressions. -/
theorem check_constants (schema : Schema) (c : Candidate) (h : check schema c = .ok ()) :
    ∃ query, statements? c.statement = some [some query] ∧
      (∀ e ∈ query.expressions, e.isConstant = false) ∧
      (query.IsFreeOfConstants ↔ query.heldConstants = []) ∧
      ((∀ e ∈ query.expressions, e.isArrayOf = false) →
        query.heldConstants = query.expressions.flatMap Expr.heldConstants) := by
  obtain ⟨-, -, query, hq, select, primary, others, hp⟩ := check_eq_ok_iff.mp h
  have hexprs : ∀ e ∈ query.expressions, e.isConstant = false :=
    fun e he => isConstant_of_checkExpr (hp.exprs e he)
  exact ⟨query, hq, hexprs, ⟨fun hf => hf.held, fun hn => ⟨hexprs, hn⟩⟩, hp.heldConstants_eq⟩

theorem check_constants_sharing :
    check Registry.standard.schema (candidateOf sharingStatement) = .ok () ∧
    ∃ query, statements? sharingStatement = some [some query] ∧
      (∀ e ∈ query.expressions, e.isConstant = false) ∧
      (query.IsFreeOfConstants ↔ query.heldConstants = []) ∧
      ((∀ e ∈ query.expressions, e.isArrayOf = false) →
        query.heldConstants = query.expressions.flatMap Expr.heldConstants) :=
  ⟨check_sharing,
    check_constants Registry.standard.schema (candidateOf sharingStatement) check_sharing⟩

def introducedStatement : String :=
  "SELECT imor FROM monthly_kpis WHERE bank_id = _utf8'INVEX' AND period = $1"

/-- A statement that is let through may hold a text with its character set. -/
theorem check_keeps_constant : ¬ ∀ (schema : Schema) (c : Candidate),
    check schema c = .ok () → ∃ query, statements? c.statement = some [some query] ∧
      query.IsFreeOfConstants := by
  intro hall
  have hc : check Registry.standard.schema (candidateOf introducedStatement) = .ok () :=
    eq_ok_of_isOk (by decide +kernel)
  have hheld : (queryOf introducedStatement).toOption.map Query.heldConstants =
      some [.string "INVEX"] := by
    decide +kernel
  obtain ⟨query, hs, hfree⟩ := hall _ _ hc
  have hnil := hfree.held
  rw [eq_of_queryOf hs hheld] at hnil
  cases hnil

end BankQuery.Guard
