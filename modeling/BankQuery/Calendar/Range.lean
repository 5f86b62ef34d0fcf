import BankQuery.Calendar.Date

/-!
# Ranges of months

A range is given by the first days of its first and last month. `DateRange.ofEnds` brings any two
dates into that form; a range read from outside is taken as it stands. `months` lists a range month
by month and `monthCount` counts it.
-/

namespace BankQuery

structure DateRange where
  start : Date
  stop : Date
deriving DecidableEq

namespace DateRange

/-- The months of two dates and all between them, in either order. -/
def ofEnds (a b : Date) : DateRange :=
  if a.monthStart ≤ b.monthStart then ⟨a.monthStart, b.monthStart⟩ else ⟨b.monthStart, a.monthStart⟩

def ofYears? (a b : Int) : Option DateRange := do
  return ofEnds (← Date.ofParts? (Min.min a b) 1 1) (← Date.ofParts? (Max.max a b) 12 1)

def ofYear? (y : Int) : Option DateRange := ofYears? y y

def ofQuarter? (y : Int) (q : Nat) : Option DateRange := do
  if 1 ≤ q ∧ q ≤ 4 then
    return ofEnds (← Date.ofParts? y ((q - 1) * 3 + 1) 1) (← Date.ofParts? y ((q - 1) * 3 + 3) 1)
  else none

def ofMonth? (y : Int) (m : Nat) : Option DateRange := do
  let d ← Date.ofParts? y m 1
  return ofEnds d d

/-- The months up to and including that of `stop`, at least one. The count is a machine word, and
its upper half counts forward. -/
def trailing (stop : Date) (months : UInt32) : DateRange :=
  let back : Int32 := (if months = 0 then 1 else months).toInt32 - 1
  ofEnds (stop.monthStart.shift (-back).toInt) stop.monthStart

/-- Dates one month apart from `d` on, as long as they do not pass `stop`, at most `n` of them. -/
def monthsFrom (stop : Date) : Nat → Date → List Date
  | 0, _ => []
  | n + 1, d =>
    if d ≤ stop then
      if d.shift 1 = d then [d] else d :: monthsFrom stop n (d.shift 1)
    else []

def months (r : DateRange) : List Date :=
  monthsFrom r.stop (r.stop.monthIndex - r.start.monthIndex + 1).toNat r.start

def monthCount (r : DateRange) : Nat := (r.stop.monthIndex - r.start.monthIndex + 1).toNat

def contains (r : DateRange) (d : Date) : Bool := r.start ≤ d.monthStart && d.monthStart ≤ r.stop

end DateRange

end BankQuery
