import BankQuery.Json.Decode
import BankQuery.Retrieval.Context

/-! # Retrieved context as JSON -/

namespace BankQuery

open Json

def metadataToJson (m : Metadata) : Json := .object (m.map fun p => (p.1, .string p.2))

def wideToJson (x : Float32) : Json := .float x.toFloat

namespace Snippet

def ofJson? (j : Json) : Option Snippet := do
  match ← fields [required "text", required "score", defaulted "metadata"] j with
  | [text, score, metadata] =>
    return { text := ← need text? text, score := ← need float32? score,
             metadata := ← orElse [] textMap? metadata }
  | _ => none

def toJson (s : Snippet) : Json :=
  .object [("text", .string s.text), ("score", wideToJson s.score),
    ("metadata", metadataToJson s.metadata)]

end Snippet

namespace Context

def ofJson? (j : Json) : Option Context := do
  match ← fields [required "schema_snippets", required "metric_definitions", required "examples",
      required "degraded"] j with
  | [schema, metrics, examples, degraded] =>
    return { schema := ← need (list? Snippet.ofJson?) schema,
             metrics := ← need (list? Snippet.ofJson?) metrics,
             examples := ← need (list? Snippet.ofJson?) examples,
             degraded := ← need bool? degraded }
  | _ => none

def toJson (c : Context) : Json :=
  .object [("schema_snippets", .array (c.schema.map Snippet.toJson)),
    ("metric_definitions", .array (c.metrics.map Snippet.toJson)),
    ("examples", .array (c.examples.map Snippet.toJson)), ("degraded", .bool c.degraded)]

end Context

end BankQuery
