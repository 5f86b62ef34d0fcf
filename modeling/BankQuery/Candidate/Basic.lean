import BankQuery.Json.Writer
import BankQuery.Question.Basic

/-!
# Candidates

A candidate is a statement that has been generated and not yet been checked, with the values to bind
to its placeholders.
-/

namespace BankQuery

inductive BoundValue where
  | text (value : String)
  | date (value : Date)
  | int (value : Int64)
deriving DecidableEq

def BoundValue.display : BoundValue → String
  | .text s => s
  | .date d => d.text
  | .int n => Json.intText n.toInt

structure Parameter where
  /-- The placeholder as it stands in the statement. -/
  name : String
  value : BoundValue
deriving DecidableEq

structure Candidate where
  statement : String
  parameters : List Parameter
  tables : List String
  columns : List String
  mode : Mode
  topN : Option UInt32
  /-- One for a first statement, two for one generated after a rejection. -/
  attempt : UInt32
deriving DecidableEq

def Candidate.parameter? (c : Candidate) (name : String) : Option BoundValue :=
  (c.parameters.find? fun p => p.name == name).map Parameter.value

end BankQuery
