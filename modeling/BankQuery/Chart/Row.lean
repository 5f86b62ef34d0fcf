import BankQuery.Question.Format

/-!
# Rows

What running a statement gives: a value for a bank and a period, and for a segment where the
statement asked for segments. The value may be missing.
-/

namespace BankQuery

open Json

structure Row where
  bank : String
  period : Date
  segment : Option String := none
  value : Option Float

namespace Row

def ofJson? (j : Json) : Option Row := do
  match ← fields [required "bank", required "period", defaulted "segment", required "value"] j with
  | [bank, period, segment, value] =>
    return { bank := ← need text? bank, period := ← need Date.ofJson? period,
             segment := ← maybe text? segment, value := ← maybe float? value }
  | _ => none

def toJson (r : Row) : Json :=
  .object ([("bank", .string r.bank), ("period", r.period.toJson)] ++
    whenSome "segment" .string r.segment ++ [("value", Json.ofOption .float r.value)])

end Row

end BankQuery
