import BankQuery.Text.Normal

/-!
# Entries of the registry

A bank, a metric and a segment filter each have a canonical identifier and the surface forms by
which a question may name them: the identifier, the display name and the aliases. The identifier is
compared up to the case of ASCII letters, the surface forms by their normal form.
-/

namespace BankQuery

/-- A bank, or the whole market as an aggregate of all banks. -/
structure Bank where
  id : String
  displayName : String
  aliases : List String := []
  aggregate : Bool := false
deriving DecidableEq

inductive MetricUnit where
  | ratio
  | percent
  | millions
deriving DecidableEq

namespace MetricUnit

def name : MetricUnit → String
  | .ratio => "ratio"
  | .percent => "percent"
  | .millions => "mxn_millions"

def label : MetricUnit → String
  | .ratio => "%"
  | .percent => "%"
  | .millions => "MXN mm"

/-- A stored value in the unit of its label: ratios become percentages. -/
def display (u : MetricUnit) (stored : Float) : Float :=
  match u with
  | .ratio => stored * 100
  | .percent => stored
  | .millions => stored

end MetricUnit

structure ValueRange where
  low : Float
  high : Float

def ValueRange.contains (r : ValueRange) (x : Float) : Bool := x ≥ r.low && x ≤ r.high

structure Metric where
  code : String
  displayName : String
  description : String
  aliases : List String := []
  column : String
  unit : MetricUnit
  validRange : Option ValueRange := none
  segmented : Bool := false
  higherIsWorse : Bool := false

/-- A credit segment by which some metrics are broken down. -/
structure SegmentFilter where
  id : String
  displayName : String
  aliases : List String := []
deriving DecidableEq

def Bank.surfaceForms (b : Bank) : List String := b.id :: b.displayName :: b.aliases

def Metric.surfaceForms (m : Metric) : List String := m.code :: m.displayName :: m.aliases

def SegmentFilter.surfaceForms (f : SegmentFilter) : List String :=
  f.id :: f.displayName :: f.aliases

/-- Whether one of the forms has the normal form `needle`. -/
def names (forms : List String) (needle : String) : Bool :=
  forms.any fun form => Text.normalize form == needle

end BankQuery
