import BankQuery.Chart.Row
import BankQuery.Registry.Basic
import BankQuery.Sorting

/-!
# Charts

Rows become named series of points in the order of time. Each requested bank has a series, and each
segment of it when more than one was asked for; in a ranking each bank that came back is a series of
one point. Values are shown in the unit of the metric's label.
-/

namespace BankQuery

structure Point where
  /-- Year and month. -/
  period : String
  value : Option Float

structure Series where
  name : String
  label : String
  bank : String
  segment : Option String := none
  /-- Place in a ranking, from one. -/
  rank : Option UInt32 := none
  points : List Point

structure Chart where
  metric : String
  metricName : String
  /-- The label of the unit. -/
  unit : String
  series : List Series

namespace Series

def hasData (s : Series) : Bool := s.points.any fun p => p.value.isSome

end Series

namespace Chart

def noData (c : Chart) : Bool := !c.series.any Series.hasData

structure Options where
  /-- Whether every month of the range has a point. -/
  dense : Bool := false

/-- A requested bank, and the segment of it if there is one. -/
structure Key where
  bank : String
  segment : Option String

def isSplit (q : Question) : Bool := 1 < q.filters.length

def keys (q : Question) : List Key :=
  if isSplit q then q.banks.flatMap fun b => q.filters.map fun f => ⟨b, some f⟩
  else q.banks.map fun b => ⟨b, q.filters.head?⟩

/-- Rows of a series, one for each period, in the order of time. -/
def matching (q : Question) (k : Key) (rows : List Row) : List Row :=
  dropRepeats (fun a b => a.period == b.period)
    (sortBy (fun a b => a.period < b.period)
      (rows.filter fun r => Text.sameAscii r.bank k.bank && (!isSplit q || r.segment == k.segment)))

def pointAt (u : MetricUnit) (rows : List Row) (month : Date) : Point :=
  ⟨month.monthLabel, ((rows.find? fun r => r.period == month).bind Row.value).map u.display⟩

def points (options : Options) (u : MetricUnit) (range : DateRange) (rows : List Row) :
    List Point :=
  if options.dense then range.months.map (pointAt u rows)
  else rows.filterMap fun r => r.value.map fun v => ⟨r.period.monthLabel, some (u.display v)⟩

def bankLabel (r : Registry) (bank : String) : String :=
  ((r.bank? bank).map Bank.displayName).getD bank

def segmentLabel (r : Registry) (segment : String) : String :=
  ((r.filter? segment).map SegmentFilter.displayName).getD segment

def seriesFor (options : Options) (r : Registry) (q : Question) (m : Metric) (rows : List Row)
    (k : Key) : Series :=
  { name := match isSplit q, k.segment with
      | true, some s => k.bank ++ " / " ++ s
      | _, _ => k.bank
    label := match k.segment with
      | some s => bankLabel r k.bank ++ " (" ++ segmentLabel r s ++ ")"
      | none => bankLabel r k.bank
    bank := k.bank
    segment := k.segment
    points := points options m.unit q.range (matching q k rows) }

def valueBefore (order : RankOrder) (x y : Float) : Bool :=
  match order with
  | .ascending => x < y
  | .descending => y < x

/-- Whether a row comes before another: by value, missing values last, and then by bank. -/
def rowBefore (order : RankOrder) (a b : Row) : Bool :=
  match a.value, b.value with
  | some x, some y => valueBefore order x y || (!valueBefore order y x && a.bank < b.bank)
  | some _, none => true
  | none, some _ => false
  | none, none => a.bank < b.bank

/-- Rows of a ranking in order, as many as asked for. -/
def ranked (q : Question) (rows : List Row) : List Row :=
  let rows := dropRepeats (fun a b => a.bank == b.bank) (sortBy (rowBefore q.order) rows)
  match q.topN with
  | some n => rows.take n.toNat
  | none => rows

def rankedSeries (r : Registry) (m : Metric) (place : Nat) (row : Row) : Series :=
  { name := row.bank, label := bankLabel r row.bank, bank := row.bank
    rank := some (UInt32.ofNat (place + 1))
    points := [⟨row.period.monthLabel, row.value.map m.unit.display⟩] }

def seriesOf (options : Options) (r : Registry) (q : Question) (m : Metric) (rows : List Row) :
    List Series :=
  match q.mode with
  | .ranking => (ranked q rows).mapIdx (rankedSeries r m)
  | .single | .compare => (keys q).map (seriesFor options r q m rows)

/-- The chart that answers a question, if its metric is registered. -/
def ofRows? (options : Options) (r : Registry) (q : Question) (rows : List Row) : Option Chart :=
  (r.metric? (q.metric.getD "")).map fun m =>
    { metric := m.code, metricName := m.displayName, unit := m.unit.label,
      series := seriesOf options r q m rows }

end Chart

end BankQuery
