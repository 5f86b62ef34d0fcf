import BankQuery.Chart.Format
import BankQuery.Engine.Basic

/-!
# Requests and responses as JSON

A response carries an identifier by which the log can be searched. An answer is written without the
name of its metric, which each series shows in its label.
-/

namespace BankQuery

open Json

def Request.ofJson? (j : Json) : Option Request := do
  match ← fields [required "query_text", defaulted "conversation_context"] j with
  | [text, prior] =>
    return { text := ← need text? text, prior := ← maybe Question.ofJson? prior }
  | _ => none

def Response.toJson (id : String) : Response → Json
  | .answer chart degraded question =>
    .object [("series", .array (chart.series.map Series.toJson)), ("sql_debug_id", .string id),
      ("metric", .string chart.metric), ("unit", .string chart.unit),
      ("no_data", .bool chart.noData), ("degraded", .bool degraded),
      ("query_spec", question.toJson)]
  | .clarification message options =>
    .object [("requires_clarification", .bool true), ("message", .string message),
      ("options", strings options), ("sql_debug_id", .string id)]
  | .error kind message options =>
    .object ([("error_kind", .string kind.name), ("message", .string message)] ++
      (if options.isEmpty then [] else [("options", strings options)]) ++
      [("sql_debug_id", .string id)])

end BankQuery
