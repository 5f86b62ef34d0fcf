import BankQuery.Json.Decode
import BankQuery.Json.Writer
import BankQuery.Question.Basic

/-!
# Questions as JSON

The form in which a question is handed back to the asker and taken up again in the next turn. Its
compact text is the key under which results are kept.
-/

namespace BankQuery

open Json

def Date.ofJson? (j : Json) : Option Date := j.text?.bind Date.read?

def Date.toJson (d : Date) : Json := .string d.text

def DateRange.ofJson? (j : Json) : Option DateRange := do
  match ← fields [required "start_date", required "end_date"] j with
  | [start, stop] => return { start := ← need Date.ofJson? start, stop := ← need Date.ofJson? stop }
  | _ => none

def DateRange.toJson (r : DateRange) : Json :=
  .object [("start_date", r.start.toJson), ("end_date", r.stop.toJson)]

def Mode.table : List (String × Mode) := [Mode.single, .compare, .ranking].map fun m => (m.name, m)

def RankOrder.table : List (String × RankOrder) :=
  [RankOrder.ascending, .descending].map fun o => (o.name, o)

def wordToJson (n : UInt32) : Json := .int n.toNat

namespace Question

def ofJson? (j : Json) : Option Question := do
  match ← fields [defaulted "metric", defaulted "banks", required "time_range",
      defaulted "dimension_filters", required "comparison_mode", defaulted "top_n",
      defaulted "rank_order"] j with
  | [metric, banks, range, filters, mode, topN, order] =>
    return { metric := ← maybe text? metric,
             banks := ← orElse [] (list? text?) banks,
             range := ← need DateRange.ofJson? range,
             filters := ← orElse [] (list? text?) filters,
             mode := ← need (choice? Mode.table) mode,
             topN := ← maybe uint32? topN,
             order := ← orElse .descending (choice? RankOrder.table) order }
  | _ => none

def toJson (q : Question) : Json :=
  .object [("metric", Json.ofOption .string q.metric), ("banks", strings q.banks),
    ("time_range", q.range.toJson), ("dimension_filters", strings q.filters),
    ("comparison_mode", .string q.mode.name), ("top_n", Json.ofOption wordToJson q.topN),
    ("rank_order", .string q.order.name)]

/-- The compact text, the key of the question. -/
def key (q : Question) : String := q.toJson.write

end Question

end BankQuery
