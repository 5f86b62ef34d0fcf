import BankQuery.Config.Basic
import BankQuery.Number.Nearest
import BankQuery.Text.Blank

/-!
# Configuration from the environment

Variables override the defaults. A variable that holds only blanks counts as not set; blanks around
a number do not matter.
-/

namespace BankQuery.Config

def variableNames : List String := [
  "NL2SQL_DATABASE_URL", "DATABASE_URL", "NL2SQL_DB_MAX_CONNECTIONS",
  "NL2SQL_DB_ACQUIRE_TIMEOUT_MS", "NL2SQL_STATEMENT_TIMEOUT_MS", "NL2SQL_RETRIEVAL_TIMEOUT_MS",
  "NL2SQL_RETRIEVAL_TOP_K", "NL2SQL_MIN_RELEVANCE", "NL2SQL_DEFAULT_RANKING_LIMIT",
  "NL2SQL_CACHE_TTL_SECS", "NL2SQL_REGISTRY_PATH", "OPENAI_API_KEY", "OPENAI_BASE_URL",
  "NL2SQL_EMBEDDING_MODEL"]

abbrev Environment := String → Option String

def isBlankText (s : String) : Bool := s.toList.all Text.isBlank

/-- A variable that is set to more than blanks. -/
def text? (env : Environment) (name : String) : Option String :=
  (env name).filter fun s => !isBlankText s

/-- The value of a variable that is read by `read`, or `value` if it is not set. -/
def parsed {α : Type} (env : Environment) (name : String) (value : α) (read : String → Option α) :
    Except ConfigFault α :=
  match text? env name with
  | none => .ok value
  | some raw =>
    match read (String.ofList (Text.trim raw.toList)) with
    | some a => .ok a
    | none => .error (.invalidValue name raw)

def readWord32? (s : String) : Option UInt32 :=
  (Number.readNat? (UInt32.size - 1) s).map UInt32.ofNat

def readWord64? (s : String) : Option UInt64 :=
  (Number.readNat? (UInt64.size - 1) s).map UInt64.ofNat

def read (env : Environment) : Except ConfigFault Config := do
  let d : Config := {}
  let maxConnections ← parsed env "NL2SQL_DB_MAX_CONNECTIONS" d.maxConnections readWord32?
  let acquireTimeout ← parsed env "NL2SQL_DB_ACQUIRE_TIMEOUT_MS" d.acquireTimeout readWord64?
  let statementTimeout ← parsed env "NL2SQL_STATEMENT_TIMEOUT_MS" d.statementTimeout readWord64?
  let retrievalTimeout ← parsed env "NL2SQL_RETRIEVAL_TIMEOUT_MS" d.retrievalTimeout readWord64?
  let retrievalLimit ← parsed env "NL2SQL_RETRIEVAL_TOP_K" d.retrievalLimit readWord64?
  let leastRelevance ← parsed env "NL2SQL_MIN_RELEVANCE" d.leastRelevance Number.readFloat32?
  let rankingLimit ← parsed env "NL2SQL_DEFAULT_RANKING_LIMIT" d.rankingLimit readWord32?
  let cacheSeconds ← parsed env "NL2SQL_CACHE_TTL_SECS" d.cacheSeconds readWord64?
  return {
    databaseUrl := (text? env "NL2SQL_DATABASE_URL").or (text? env "DATABASE_URL")
    maxConnections, acquireTimeout, statementTimeout, retrievalTimeout, retrievalLimit
    leastRelevance, rankingLimit, cacheSeconds
    registryPath := text? env "NL2SQL_REGISTRY_PATH"
    embeddingKey := text? env "OPENAI_API_KEY"
    embeddingUrl := (text? env "OPENAI_BASE_URL").getD d.embeddingUrl
    embeddingModel := (text? env "NL2SQL_EMBEDDING_MODEL").getD d.embeddingModel }

def ofEnvironment (env : Environment) : Except ConfigFault Config := do
  let c ← read env
  c.check
  return c

end BankQuery.Config
