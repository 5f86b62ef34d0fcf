import BankQuery.Guard.Rejection

/-!
# Failures

Everything that can keep a question from being answered. `message` is for the log, `publicMessage`
for the asker: it never shows a statement or a name of the schema. A statement is tried again only
when running it failed.
-/

namespace BankQuery

inductive Failure where
  | ambiguous (text : String)
  | unsupportedMetric (requested : String) (supported : List String)
  | unsupportedBank (requested : String) (supported : List String)
  | rejected (reason : Rejection)
  | timedOut (milliseconds : UInt64)
  | execution (detail : String)
  | poolExhausted (detail : String)
  | cancelled
  | retrieval (detail : String)
  | embedding (detail : String)
  | generation (detail : String)
  | config (detail : String)
  | registry (detail : String)
  /-- What the file system, a reader of JSON or the database has to say. -/
  | io (detail : String)
  | json (detail : String)
  | database (detail : String)
deriving DecidableEq

/-- What the asker is told about the nature of a failure. -/
inductive Failure.Kind where
  | ambiguousQuery
  | unsupportedMetric
  | unsupportedBank
  | validationRejected
  | executionTimeout
  | executionFailure
  | poolExhausted
  | cancelled
  | internal
deriving DecidableEq

def Failure.Kind.name : Failure.Kind → String
  | .ambiguousQuery => "AmbiguousQuery"
  | .unsupportedMetric => "UnsupportedMetric"
  | .unsupportedBank => "UnsupportedBank"
  | .validationRejected => "ValidationRejected"
  | .executionTimeout => "ExecutionTimeout"
  | .executionFailure => "ExecutionFailure"
  | .poolExhausted => "PoolExhausted"
  | .cancelled => "Cancelled"
  | .internal => "Internal"

namespace Failure

def unregistered (code : String) : Failure :=
  .registry ("Metric '" ++ code ++ "' is not registered")

def kind : Failure → Kind
  | .ambiguous _ => .ambiguousQuery
  | .unsupportedMetric _ _ => .unsupportedMetric
  | .unsupportedBank _ _ => .unsupportedBank
  | .rejected _ => .validationRejected
  | .timedOut _ => .executionTimeout
  | .execution _ | .database _ => .executionFailure
  | .poolExhausted _ => .poolExhausted
  | .cancelled => .cancelled
  | .retrieval _ | .embedding _ | .generation _ | .config _ | .registry _ | .io _ | .json _ =>
    .internal

/-- Whether the statement may be generated and run once more. -/
def isRetryable : Failure → Bool
  | .timedOut _ | .execution _ | .database _ => true
  | _ => false

/-- The message for the log. -/
def message : Failure → String
  | .ambiguous text => "Ambiguous query: " ++ text
  | .unsupportedMetric requested _ => "Unsupported metric '" ++ requested ++ "'"
  | .unsupportedBank requested _ => "Unsupported bank '" ++ requested ++ "'"
  | .rejected reason => "Validation rejected: " ++ reason.message
  | .timedOut ms => "Execution timed out after " ++ Nat.repr ms.toNat ++ " ms"
  | .execution detail => "Execution error: " ++ detail
  | .poolExhausted detail => "Connection pool exhausted: " ++ detail
  | .cancelled => "Execution cancelled"
  | .retrieval detail => "Retrieval error: " ++ detail
  | .embedding detail => "Embedding error: " ++ detail
  | .generation detail => "Generation error: " ++ detail
  | .config detail => "Configuration error: " ++ detail
  | .registry detail => "Registry error: " ++ detail
  | .io detail => "IO error: " ++ detail
  | .json detail => "JSON error: " ++ detail
  | .database detail => "Database error: " ++ detail

def publicMessage : Failure → String
  | .ambiguous text => text
  | .unsupportedMetric requested supported =>
    "La métrica '" ++ requested ++ "' no está soportada. Métricas disponibles: " ++
      ", ".intercalate supported
  | .unsupportedBank requested supported =>
    "El banco '" ++ requested ++ "' no está soportado. Bancos disponibles: " ++
      ", ".intercalate supported
  | .rejected _ => "La consulta no pudo procesarse de forma segura."
  | .timedOut _ => "La consulta tardó demasiado en ejecutarse. Intenta acotar el periodo."
  | .poolExhausted _ => "El servicio de datos está saturado. Intenta de nuevo en unos momentos."
  | .cancelled => "La consulta fue cancelada."
  | .execution _ | .retrieval _ | .embedding _ | .generation _ | .config _ | .registry _ | .io _
  | .json _ | .database _ => "No fue posible completar la consulta."

def options : Failure → List String
  | .unsupportedMetric _ supported | .unsupportedBank _ supported => supported
  | _ => []

end Failure

end BankQuery
