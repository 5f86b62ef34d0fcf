import BankQuery.Number.Decimal
import BankQuery.Question.Basic
import BankQuery.Registry.Basic
import BankQuery.Retrieval.Store

/-!
# The corpus of a registry

The documents that describe a registry to a search: its tables and columns, its metrics, and worked
examples, one for each metric and layout, phrased as people ask.
-/

namespace BankQuery.Corpus

def schemaCollection : String := "schema"

def metricCollection : String := "metric_definitions"

def exampleCollection : String := "examples"

def tableDocument (t : Table) : Document :=
  { id := "table:" ++ t.name
    text := "Tabla " ++ t.name ++ ": " ++ t.description ++ ". Columnas: " ++
      ", ".intercalate (t.columns.map Column.name) ++ ". Columna de tiempo: " ++ t.timeColumn
    metadata := [("kind", "table"), ("table", t.name)] }

def columnDocument (t : Table) (c : Column) : Document :=
  { id := "column:" ++ t.name ++ ":" ++ c.name
    text := "Columna " ++ t.name ++ "." ++ c.name ++ " (" ++ c.dataType ++ "): " ++ c.description
    metadata := [("kind", "column"), ("table", t.name), ("column", c.name)] }

def decimal (x : Float) : String := (Number.Shown.ofFloat x).positional

def rangeText : Option ValueRange → String
  | some r => decimal r.low ++ " a " ++ decimal r.high
  | none => "sin rango"

def metricDocument (m : Metric) : Document :=
  { id := "metric:" ++ m.code
    text := m.code ++ " (" ++ m.displayName ++ "): " ++ m.description ++ ". Sinónimos: " ++
      ", ".intercalate m.aliases ++ ". Columna " ++ m.column ++ ", unidad " ++ m.unit.name ++
      ", rango válido " ++ rangeText m.validRange
    metadata := [("metric", m.code), ("column", m.column), ("unit", m.unit.name)] }

def exampleQuestion (m : Metric) : Mode → String
  | .single => m.code ++ " de INVEX en 2024"
  | .compare =>
    "Compara " ++ Text.lower m.displayName ++ " de BBVA vs Sistema en los últimos 6 meses"
  | .ranking => "Top 5 bancos por " ++ Text.lower m.displayName ++ " en 2023"

def exampleStatement (t : Table) (column : String) : Mode → String
  | .single =>
    "SELECT " ++ t.bankColumn ++ " AS bank, " ++ t.timeColumn ++ " AS period, " ++ column ++
      " AS value FROM " ++ t.name ++ " WHERE " ++ t.bankColumn ++ " = $1 AND " ++ t.timeColumn ++
      " BETWEEN $2 AND $3 ORDER BY bank, period"
  | .compare =>
    "SELECT " ++ t.bankColumn ++ " AS bank, " ++ t.timeColumn ++ " AS period, " ++ column ++
      " AS value FROM " ++ t.name ++ " WHERE " ++ t.bankColumn ++ " IN ($1, $2) AND " ++
      t.timeColumn ++ " BETWEEN $3 AND $4 ORDER BY bank, period"
  | .ranking =>
    "SELECT " ++ t.bankColumn ++ " AS bank, MAX(" ++ t.timeColumn ++ ") AS period, AVG(" ++
      column ++
      ") AS value FROM " ++ t.name ++ " WHERE " ++ t.timeColumn ++ " BETWEEN $1 AND $2 AND " ++
      t.bankColumn ++ " <> $3 GROUP BY " ++ t.bankColumn ++ " ORDER BY value DESC LIMIT $4"

def exampleDocument (t : Table) (m : Metric) (mode : Mode) : Document :=
  { id := "example:" ++ m.code ++ ":" ++ mode.name
    text := "Pregunta: " ++ exampleQuestion m mode ++ "\nSQL: " ++ exampleStatement t m.column mode
    metadata := [("metric", m.code), ("mode", mode.name), ("table", t.name)] }

/-- The worked examples for a metric; there are none without a primary table. -/
def exampleDocuments (r : Registry) (m : Metric) : List Document :=
  match r.schema.primary? with
  | some t => [Mode.single, .compare, .ranking].map (exampleDocument t m)
  | none => []

def documents (r : Registry) : List (String × Document) :=
  (r.schema.tables.flatMap fun t =>
    (schemaCollection, tableDocument t) ::
      t.columns.map fun c => (schemaCollection, columnDocument t c)) ++
  r.metrics.flatMap fun m =>
    (metricCollection, metricDocument m) ::
      (exampleDocuments r m).map fun d => (exampleCollection, d)

/-- Add documents in order up to the first that is refused. -/
def seedFrom (embed : String → Embedding) (s : Store) : List (String × Document) → Store
  | [] => s
  | (collection, d) :: rest =>
    match s.add collection ⟨d, embed d.text⟩ with
    | .ok s => seedFrom embed s rest
    | .error _ => s

def seeded (dimension : Nat) (embed : String → Embedding) (r : Registry) : Store :=
  seedFrom embed (Store.empty dimension) (documents r)

end BankQuery.Corpus
