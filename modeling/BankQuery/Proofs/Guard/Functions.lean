import BankQuery.Proofs.Guard.Frame
import BankQuery.Proofs.Sql.Ordinary

/-!
# Functions in a statement that is let through

The guard lets a call through if it is written with the name of an aggregate. Some functions are
called without an expression of a call: those with a form of their own, such as `EXTRACT`, and those
that a relation takes its rows from. `check_functions` says that a statement that is let through
calls nothing but aggregates if and only if these are aggregates and no name of a call has a letter
that only becomes one of ASCII in upper case.

Casts, conditional expressions and constructors of arrays and rows are no calls.
-/

namespace BankQuery.Sql

open Text

def Expr.calledFunction? : Expr → Option String
  | .call name _ _ => some (printNames name)
  | _ => none

def Shape.function? : Shape → Option String
  | .extract _ => some "EXTRACT"
  | .rounding function _ => some function
  | .position => some "POSITION"
  | .substring _ _ => some "SUBSTRING"
  | .trim _ _ => some "TRIM"
  | .overlay _ => some "OVERLAY"
  | .listAgg _ _ _ _ => some "LISTAGG"
  | .arrayAgg _ _ _ => some "ARRAY_AGG"
  | .inUnnest _ => some "UNNEST"
  | _ => none

def Expr.formFunction? : Expr → Option String
  | .form shape _ => shape.function?
  | _ => none

def Relation.function? : Relation → Option String
  | .table name (some _) _ _ _ => some (printNames name)
  | .function name _ _ _ => some (printNames name)
  | .unnest _ _ _ _ => some "UNNEST"
  | _ => none

/-- The functions that a query calls in expressions of a call. -/
def Query.calledFunctions (q : Query) : List String := q.expressions.filterMap Expr.calledFunction?

def Query.otherFunctions (q : Query) : List String :=
  q.expressions.filterMap Expr.formFunction? ++ q.relations.filterMap Relation.function?

def Query.functions (q : Query) : List String := q.calledFunctions ++ q.otherFunctions

theorem toLower_toUpper {c : Char} (h : isWordLetter c = true) : c.toUpper.toLower = c.toLower := by
  have hall : ∀ n < 128, (Char.ofNat n).toUpper.toLower = (Char.ofNat n).toLower := by decide
  have hv := val_lt_of_isWordLetter h
  have hc := hall c.val.toNat (by omega)
  rwa [show Char.ofNat c.val.toNat = c from Char.ofNat_toNat c] at hc

theorem IsWord.sameAscii_upper {s : String} (h : IsWord s) : sameAscii (upper s) s = true := by
  rw [sameAscii_iff, asciiLower, asciiLower, h.toList_upper, List.map_map]
  exact congrArg String.ofList (List.map_congr_left fun c hc => toLower_toUpper (h.letters c hc))

end BankQuery.Sql

namespace BankQuery.Guard

open Sql

variable {schema : Schema} {c : Candidate} {query : Query} {select : Select} {primary : Table}
  {others : List Table}

def isAggregate (function : String) : Bool := allowedFunctions.any (Text.sameAscii · function)

theorem isWord_of_isAggregate {function : String} (h : isAggregate function = true) :
    IsWord function := by
  have hwords : ∀ f ∈ allowedFunctions, IsWord f := by decide
  obtain ⟨f, hf, hs⟩ := List.any_eq_true.mp h
  exact (hwords f hf).of_sameAscii hs

/-- Among names whose upper case is that of an aggregate, the words are the aggregates. -/
theorem isAggregate_iff {function : String} (h : Text.upper function ∈ allowedFunctions) :
    isAggregate function = true ↔ IsWord function :=
  ⟨isWord_of_isAggregate, fun hw => List.any_eq_true.mpr ⟨_, h, hw.sameAscii_upper⟩⟩

theorem upper_mem_of_checkExpr {tables : List Table} {e : Expr} (h : checkExpr tables e = .ok ())
    {function : String} (hf : e.calledFunction? = some function) :
    Text.upper function ∈ allowedFunctions := by
  cases e with
  | call name _ _ =>
    rw [checkExpr, demand_eq_ok_iff] at h
    cases hf
    exact List.contains_iff_mem.mp h
  | _ => cases hf

theorem Passes.upper_mem (h : Passes schema c query select primary others) :
    ∀ f ∈ query.calledFunctions, Text.upper f ∈ allowedFunctions := by
  intro f hf
  obtain ⟨e, he, hef⟩ := List.mem_filterMap.mp hf
  exact upper_mem_of_checkExpr (h.exprs e he) hef

/-- Calls of a statement that is let through are written with names whose upper case is that of an
aggregate. So all functions that it calls are aggregates if and only if these names are words and
the functions of its forms and relations are aggregates. Where no query stands inside the selection,
these are the relations of the selection. -/
theorem check_functions (schema : Schema) (c : Candidate) (h : check schema c = .ok ()) :
    ∃ query select, statements? c.statement = some [some query] ∧ query.body = .select select ∧
      (∀ f ∈ query.calledFunctions, Text.upper f ∈ allowedFunctions) ∧
      ((∀ f ∈ query.functions, isAggregate f = true) ↔
        (∀ f ∈ query.calledFunctions, IsWord f) ∧
          ∀ f ∈ query.otherFunctions, isAggregate f = true) ∧
      ((∀ e ∈ query.expressions, e.isArrayOf = false) → query.relations = relationsOf select) := by
  obtain ⟨-, -, query, hq, select, primary, others, hp⟩ := check_eq_ok_iff.mp h
  have hcalled : (∀ f ∈ query.calledFunctions, isAggregate f = true) ↔
      ∀ f ∈ query.calledFunctions, IsWord f :=
    forall₂_congr fun f hf => isAggregate_iff (hp.upper_mem f hf)
  refine ⟨query, select, hq, hp.body, hp.upper_mem, ?_, hp.relations_eq⟩
  rw [Query.functions, List.forall_mem_append, hcalled]

theorem check_functions_plain : check Registry.standard.schema plainCandidate = .ok () ∧
    ∃ query select, statements? plainCandidate.statement = some [some query] ∧
      query.body = .select select ∧
      (∀ f ∈ query.calledFunctions, Text.upper f ∈ allowedFunctions) ∧
      ((∀ f ∈ query.functions, isAggregate f = true) ↔
        (∀ f ∈ query.calledFunctions, IsWord f) ∧
          ∀ f ∈ query.otherFunctions, isAggregate f = true) ∧
      ((∀ e ∈ query.expressions, e.isArrayOf = false) → query.relations = relationsOf select) :=
  ⟨check_plain, check_functions Registry.standard.schema plainCandidate check_plain⟩

def extractStatement : String :=
  "SELECT EXTRACT(YEAR FROM period) FROM monthly_kpis WHERE period = $1"

/-- A statement that is let through may call a function that has a form of its own. -/
theorem check_calls_form : ¬ ∀ (schema : Schema) (c : Candidate),
    check schema c = .ok () → ∃ query, statements? c.statement = some [some query] ∧
      ∀ f ∈ query.functions, isAggregate f = true := by
  intro hall
  have hc : check Registry.standard.schema (candidateOf extractStatement) = .ok () :=
    eq_ok_of_isOk (by decide +kernel)
  have hcalls : (queryOf extractStatement).toOption.map Query.functions = some ["EXTRACT"] := by
    decide +kernel
  obtain ⟨query, hs, haggregates⟩ := hall _ _ hc
  rw [eq_of_queryOf hs hcalls] at haggregates
  exact absurd (haggregates "EXTRACT" List.mem_cons_self) (by decide)

end BankQuery.Guard
