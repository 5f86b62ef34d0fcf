import BankQuery.Calendar.Range

/-!
# Questions

A question that has been understood: a metric, the banks it is asked of, a range of months, segment
filters, and how the answer is laid out. It can be answered when the metric is known and, unless all
banks are ranked, at least one bank is.
-/

namespace BankQuery

/-- One series for one bank, one series for each bank, or all banks in order. -/
inductive Mode where
  | single
  | compare
  | ranking
deriving DecidableEq

def Mode.name : Mode → String
  | .single => "single"
  | .compare => "compare"
  | .ranking => "ranking"

inductive RankOrder where
  | ascending
  | descending
deriving DecidableEq

def RankOrder.name : RankOrder → String
  | .ascending => "ascending"
  | .descending => "descending"

def RankOrder.keyword : RankOrder → String
  | .ascending => "ASC"
  | .descending => "DESC"

structure Question where
  metric : Option String
  /-- Identifiers in the order of mention. -/
  banks : List String := []
  range : DateRange
  filters : List String := []
  mode : Mode
  topN : Option UInt32 := none
  order : RankOrder := .descending
deriving DecidableEq

namespace Question

def isExecutable (q : Question) : Bool :=
  q.metric.isSome && (!q.banks.isEmpty || q.mode == .ranking)

end Question

end BankQuery
