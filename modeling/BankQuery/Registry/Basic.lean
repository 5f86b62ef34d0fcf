import BankQuery.Registry.Entry
import BankQuery.Registry.Schema

/-!
# The registry

What questions may speak of: banks, metrics, segment filters, the terms that are understood and not
served, and the schema that holds the numbers. Where several entries answer to one name the earliest
is meant.

`check` looks for the first inconsistency: a missing primary table, an identifier that occurs twice,
a metric without its column, or filters without a table to apply them to.
-/

namespace BankQuery

structure Registry where
  banks : List Bank
  metrics : List Metric
  filters : List SegmentFilter := []
  unsupportedTerms : List String := []
  schema : Schema

inductive RegistryFault where
  | noPrimaryTable (name : String)
  | duplicateBank (id : String)
  | duplicateMetric (code : String)
  | noColumn (code column table : String)
  | noSegmentTable (code : String)
  | noSegmentColumn (code column table : String)
  | filtersWithoutSegments
deriving DecidableEq

def RegistryFault.message : RegistryFault → String
  | .noPrimaryTable name => "Primary table '" ++ name ++ "' is not in the schema whitelist"
  | .duplicateBank id => "Duplicate bank id '" ++ id ++ "'"
  | .duplicateMetric code => "Duplicate metric code '" ++ code ++ "'"
  | .noColumn code column table =>
    "Metric '" ++ code ++ "' maps to column '" ++ column ++ "' which is not whitelisted in '" ++
      table ++ "'"
  | .noSegmentTable code =>
    "Metric '" ++ code ++ "' is segmented but no segment table is whitelisted"
  | .noSegmentColumn code column table =>
    "Segmented metric '" ++ code ++ "' has no column '" ++ column ++ "' in '" ++ table ++ "'"
  | .filtersWithoutSegments => "Segment filters declared without a segment table"

namespace Registry

def bank? (r : Registry) (id : String) : Option Bank :=
  r.banks.find? fun b => Text.sameAscii b.id id

def metric? (r : Registry) (code : String) : Option Metric :=
  r.metrics.find? fun m => Text.sameAscii m.code code

def filter? (r : Registry) (id : String) : Option SegmentFilter :=
  r.filters.find? fun f => Text.sameAscii f.id id

/-- The first bank that stands for the whole market. -/
def systemBank? (r : Registry) : Option Bank := r.banks.find? Bank.aggregate

def namedIn {α : Type} (entries : List α) (forms : α → List String) (text : String) : Option α :=
  if Text.normalize text = "" then none
  else entries.find? fun e => names (forms e) (Text.normalize text)

def bankNamed? (r : Registry) (text : String) : Option Bank :=
  namedIn r.banks Bank.surfaceForms text

def metricNamed? (r : Registry) (text : String) : Option Metric :=
  namedIn r.metrics Metric.surfaceForms text

def filterNamed? (r : Registry) (text : String) : Option SegmentFilter :=
  namedIn r.filters SegmentFilter.surfaceForms text

def metricCodes (r : Registry) : List String := r.metrics.map Metric.code

def bankIds (r : Registry) : List String := r.banks.map Bank.id

/-- Banks whose identifiers, in upper case, are not among `seen` nor repeated. -/
def checkBanks (seen : List String) : List Bank → Except RegistryFault Unit
  | [] => .ok ()
  | b :: rest =>
    if Text.upper b.id ∈ seen then .error (.duplicateBank b.id)
    else checkBanks (Text.upper b.id :: seen) rest

def checkMetric (primary : Table) (segments : Option Table) (m : Metric) :
    Except RegistryFault Unit :=
  if !primary.hasColumn m.column then .error (.noColumn m.code m.column primary.name)
  else if m.segmented then
    match segments with
    | none => .error (.noSegmentTable m.code)
    | some t =>
      if t.hasColumn m.column then .ok () else .error (.noSegmentColumn m.code m.column t.name)
  else .ok ()

def checkMetrics (primary : Table) (segments : Option Table) (seen : List String) :
    List Metric → Except RegistryFault Unit
  | [] => .ok ()
  | m :: rest =>
    if Text.upper m.code ∈ seen then .error (.duplicateMetric m.code)
    else
      match checkMetric primary segments m with
      | .error fault => .error fault
      | .ok () => checkMetrics primary segments (Text.upper m.code :: seen) rest

def check (r : Registry) : Except RegistryFault Unit :=
  match r.schema.primary? with
  | none => .error (.noPrimaryTable r.schema.primaryTable)
  | some primary =>
    match checkBanks [] r.banks with
    | .error fault => .error fault
    | .ok () =>
      match checkMetrics primary r.schema.segments? [] r.metrics with
      | .error fault => .error fault
      | .ok () =>
        if !r.filters.isEmpty && r.schema.segments?.isNone then .error .filtersWithoutSegments
        else .ok ()

end Registry

end BankQuery
