import BankQuery.Candidate.Basic
import BankQuery.Guard.Rejection
import BankQuery.Question.Format

/-!
# Candidates and rejections as JSON

A value or a rejection is written as a tag with its content.
-/

namespace BankQuery

open Json

namespace Json

/-- The tag and the content of a tagged value: two members, or two items of which the first is a
text. -/
def tagged? (tag content : String) : Json → Option (Json × Option Json)
  | .array [.string t, c] => some (.string t, some c)
  | .object members => do
    match ← memberOnce members tag with
    | some t => return (t, ← memberOnce members content)
    | none => none
  | _ => none

end Json

namespace BoundValue

def ofJson? (j : Json) : Option BoundValue := do
  let (tag, content) ← j.tagged? "type" "value"
  match ← choice? [("text", 0), ("date", 1), ("int", 2)] tag with
  | 0 => return .text (← need text? content)
  | 1 => return .date (← need Date.ofJson? content)
  | _ => return .int (Int64.ofInt (← need int64? content))

def toJson : BoundValue → Json
  | .text s => .object [("type", .string "text"), ("value", .string s)]
  | .date d => .object [("type", .string "date"), ("value", d.toJson)]
  | .int n => .object [("type", .string "int"), ("value", .int n.toInt)]

end BoundValue

namespace Parameter

def ofJson? (j : Json) : Option Parameter := do
  match ← fields [required "name", required "value"] j with
  | [name, value] => return { name := ← need text? name, value := ← need BoundValue.ofJson? value }
  | _ => none

def toJson (p : Parameter) : Json := .object [("name", .string p.name), ("value", p.value.toJson)]

end Parameter

namespace Candidate

def ofJson? (j : Json) : Option Candidate := do
  match ← fields [required "statement", required "parameters", required "referenced_tables",
      required "referenced_columns", required "comparison_mode", required "top_n",
      required "attempt"] j with
  | [statement, parameters, tables, columns, mode, topN, attempt] =>
    return { statement := ← need text? statement,
             parameters := ← need (list? Parameter.ofJson?) parameters,
             tables := ← need (list? text?) tables, columns := ← need (list? text?) columns,
             mode := ← need (choice? Mode.table) mode, topN := ← maybe uint32? topN,
             attempt := ← need uint32? attempt }
  | _ => none

def toJson (c : Candidate) : Json :=
  .object [("statement", .string c.statement),
    ("parameters", .array (c.parameters.map Parameter.toJson)),
    ("referenced_tables", strings c.tables), ("referenced_columns", strings c.columns),
    ("comparison_mode", .string c.mode.name), ("top_n", Json.ofOption wordToJson c.topN),
    ("attempt", wordToJson c.attempt)]

end Candidate

namespace Rejection

/-- Rejections that name nothing. -/
def plain : List Rejection :=
  [.multipleStatements, .comment, .notASelect, .setOperation, .commonTableExpression, .subquery]

def naming : List (String → Rejection) := [
  .forbiddenKeyword, .unparseable, .unknownTable, .unknownColumn, .disallowedFunction,
  .inlineLiteral, .placeholderMismatch, .missingTimePredicate, .suspiciousInput]

def table : List (String × (Rejection ⊕ (String → Rejection))) :=
  plain.map (fun r => (r.name, .inl r)) ++ naming.map fun f => ((f "").name, .inr f)

def ofJson? (j : Json) : Option Rejection := do
  let (tag, content) ← j.tagged? "reason" "detail"
  match ← choice? table tag with
  | .inl r =>
    match content with
    | none | some .null => return r
    | some _ => none
  | .inr f => return f (← need text? content)

end Rejection

end BankQuery
