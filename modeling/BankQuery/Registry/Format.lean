import BankQuery.Json.Decode
import BankQuery.Registry.Basic

/-!
# The registry as JSON

The form in which a registry is exchanged. Writing gives every field; reading fills in the fields
that have a default.
-/

namespace BankQuery

open Json

def Bank.ofJson? (j : Json) : Option Bank := do
  match ← fields [required "id", required "display_name", defaulted "aliases",
      defaulted "aggregate"] j with
  | [id, displayName, aliases, aggregate] =>
    return { id := ← need text? id, displayName := ← need text? displayName,
             aliases := ← orElse [] (list? text?) aliases,
             aggregate := ← orElse false bool? aggregate }
  | _ => none

def Bank.toJson (b : Bank) : Json :=
  .object [("id", .string b.id), ("display_name", .string b.displayName),
    ("aliases", strings b.aliases), ("aggregate", .bool b.aggregate)]

def MetricUnit.table : List (String × MetricUnit) :=
  [MetricUnit.ratio, .percent, .millions].map fun u => (u.name, u)

def ValueRange.ofJson? (j : Json) : Option ValueRange := do
  match ← fields [required "min", required "max"] j with
  | [low, high] => return { low := ← need float? low, high := ← need float? high }
  | _ => none

def ValueRange.toJson (r : ValueRange) : Json :=
  .object [("min", .float r.low), ("max", .float r.high)]

def Metric.ofJson? (j : Json) : Option Metric := do
  match ← fields [required "code", required "display_name", required "description",
      defaulted "aliases", required "column", required "unit", defaulted "valid_range",
      defaulted "segmented", defaulted "higher_is_worse"] j with
  | [code, displayName, description, aliases, column, unit, validRange, segmented, worse] =>
    return { code := ← need text? code, displayName := ← need text? displayName,
             description := ← need text? description,
             aliases := ← orElse [] (list? text?) aliases,
             column := ← need text? column, unit := ← need (choice? MetricUnit.table) unit,
             validRange := ← maybe ValueRange.ofJson? validRange,
             segmented := ← orElse false bool? segmented,
             higherIsWorse := ← orElse false bool? worse }
  | _ => none

def Metric.toJson (m : Metric) : Json :=
  .object [("code", .string m.code), ("display_name", .string m.displayName),
    ("description", .string m.description), ("aliases", strings m.aliases),
    ("column", .string m.column), ("unit", .string m.unit.name),
    ("valid_range", Json.ofOption ValueRange.toJson m.validRange),
    ("segmented", .bool m.segmented), ("higher_is_worse", .bool m.higherIsWorse)]

def SegmentFilter.ofJson? (j : Json) : Option SegmentFilter := do
  match ← fields [required "id", required "display_name", defaulted "aliases"] j with
  | [id, displayName, aliases] =>
    return { id := ← need text? id, displayName := ← need text? displayName,
             aliases := ← orElse [] (list? text?) aliases }
  | _ => none

def SegmentFilter.toJson (f : SegmentFilter) : Json :=
  .object [("id", .string f.id), ("display_name", .string f.displayName),
    ("aliases", strings f.aliases)]

def Column.ofJson? (j : Json) : Option Column := do
  match ← fields [required "name", required "data_type", defaulted "description"] j with
  | [name, dataType, description] =>
    return { name := ← need text? name, dataType := ← need text? dataType,
             description := ← orElse "" text? description }
  | _ => none

def Column.toJson (c : Column) : Json :=
  .object [("name", .string c.name), ("data_type", .string c.dataType),
    ("description", .string c.description)]

def Table.ofJson? (j : Json) : Option Table := do
  match ← fields [required "name", defaulted "description", required "columns",
      required "time_column", required "bank_column", defaulted "segment_column"] j with
  | [name, description, columns, timeColumn, bankColumn, segmentColumn] =>
    return { name := ← need text? name, description := ← orElse "" text? description,
             columns := ← need (list? Column.ofJson?) columns,
             timeColumn := ← need text? timeColumn, bankColumn := ← need text? bankColumn,
             segmentColumn := ← maybe text? segmentColumn }
  | _ => none

def Table.toJson (t : Table) : Json :=
  .object [("name", .string t.name), ("description", .string t.description),
    ("columns", .array (t.columns.map Column.toJson)), ("time_column", .string t.timeColumn),
    ("bank_column", .string t.bankColumn),
    ("segment_column", Json.ofOption .string t.segmentColumn)]

def Schema.ofJson? (j : Json) : Option Schema := do
  match ← fields [required "tables", required "primary_table", defaulted "segment_table"] j with
  | [tables, primaryTable, segmentTable] =>
    return { tables := ← need (list? Table.ofJson?) tables,
             primaryTable := ← need text? primaryTable,
             segmentTable := ← maybe text? segmentTable }
  | _ => none

def Schema.toJson (s : Schema) : Json :=
  .object [("tables", .array (s.tables.map Table.toJson)),
    ("primary_table", .string s.primaryTable),
    ("segment_table", Json.ofOption .string s.segmentTable)]

def Registry.ofJson? (j : Json) : Option Registry := do
  match ← fields [required "banks", required "metrics", defaulted "filters",
      defaulted "unsupported_terms", required "schema"] j with
  | [banks, metrics, filters, unsupportedTerms, schema] =>
    return { banks := ← need (list? Bank.ofJson?) banks,
             metrics := ← need (list? Metric.ofJson?) metrics,
             filters := ← orElse [] (list? SegmentFilter.ofJson?) filters,
             unsupportedTerms := ← orElse [] (list? text?) unsupportedTerms,
             schema := ← need Schema.ofJson? schema }
  | _ => none

def Registry.toJson (r : Registry) : Json :=
  .object [("banks", .array (r.banks.map Bank.toJson)),
    ("metrics", .array (r.metrics.map Metric.toJson)),
    ("filters", .array (r.filters.map SegmentFilter.toJson)),
    ("unsupported_terms", strings r.unsupportedTerms), ("schema", r.schema.toJson)]

end BankQuery
