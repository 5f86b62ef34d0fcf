import BankQuery.Sql.Grammar.Operator

/-!
# Intervals

The value of an interval is an operand with operators behind it, of which no connective is one.
Behind it may stand the fields that it spans.
-/

namespace BankQuery.Sql.Grammar

open BankQuery.Sql.Parser

variable (g : Grammar)

def intervalQualifier : Parser String := do
  match ← oneOf? (dateFields.filter (!lastFieldsOnly.contains ·)) with
  | some "SECOND" =>
    match ← scale? with
    | (some n, some s) => pure (" SECOND (" ++ Nat.repr n ++ ", " ++ Nat.repr s ++ ")")
    | (n, _) => pure (" SECOND" ++ spaced n)
  | leading =>
    let n ← precision?
    let start := (match leading with
      | some unit => " " ++ unit
      | none => "") ++ spaced n
    if ← keyword? "TO" then
      let last ← dateField
      let fraction ← if last = "SECOND" then precision? else pure none
      pure (start ++ " TO " ++ last ++ spaced fraction)
    else pure start
where
  spaced : Option Nat → String
    | none => ""
    | some n => " (" ++ Nat.repr n ++ ")"

/-- The strength of the next operator of an interval, which ends before a connective. -/
def intervalStrength (ts : List Token) : Nat :=
  match ts with
  | t :: _ => if ["AND", "OR", "XOR"].contains t.keyword then 0 else strength ts
  | [] => 0

def interval : Parser Expr := do
  let first ← g.operand
  let value ← iterate (fun e => do
    let s := intervalStrength (← rest)
    if 0 < s then some <$> g.operator e s else pure none) first
  pure (.interval value (← intervalQualifier))

end BankQuery.Sql.Grammar
