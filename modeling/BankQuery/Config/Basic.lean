import BankQuery.Number.Decimal

/-!
# Configuration

Settings for the database, for retrieval and for the engine itself. `check` looks for the first
setting that cannot work.
-/

namespace BankQuery

structure Config where
  /-- Where the database is; needed only to run statements. -/
  databaseUrl : Option String := none
  maxConnections : UInt32 := 10
  acquireTimeout : UInt64 := 2000
  statementTimeout : UInt64 := 10000
  retrievalTimeout : UInt64 := 1500
  /-- Snippets of each kind. -/
  retrievalLimit : UInt64 := 5
  leastRelevance : Float32 := 0.25
  /-- Places of a ranking that does not say how many it wants. -/
  rankingLimit : UInt32 := 10
  /-- Seconds for which results are kept; none are kept at zero. -/
  cacheSeconds : UInt64 := 0
  registryPath : Option String := none
  embeddingKey : Option String := none
  embeddingUrl : String := "https://api.openai.com/v1"
  embeddingModel : String := "text-embedding-3-small"

inductive ConfigFault where
  | noConnections
  | noStatementTimeout
  | noRetrievalLimit
  | relevanceOutside (found : Float32)
  | noRankingLimit
  | invalidValue (name value : String)
  | noDatabaseUrl

namespace ConfigFault

def message : ConfigFault → String
  | .noConnections => "max_connections must be at least 1"
  | .noStatementTimeout => "statement_timeout_ms must be positive"
  | .noRetrievalLimit => "retrieval_top_k must be at least 1"
  | .relevanceOutside found =>
    "min_relevance must be within [0, 1], got " ++ (Number.Shown.ofFloat32 found).positional
  | .noRankingLimit => "default_ranking_limit must be at least 1"
  | .invalidValue name value => name ++ " has an invalid value '" ++ value ++ "'"
  | .noDatabaseUrl => "database_url is not set"

end ConfigFault

namespace Config

def check (c : Config) : Except ConfigFault Unit :=
  if c.maxConnections = 0 then .error .noConnections
  else if c.statementTimeout = 0 then .error .noStatementTimeout
  else if c.retrievalLimit = 0 then .error .noRetrievalLimit
  else if !(0 ≤ c.leastRelevance && c.leastRelevance ≤ 1) then
    .error (.relevanceOutside c.leastRelevance)
  else if c.rankingLimit = 0 then .error .noRankingLimit
  else .ok ()

def cacheTime? (c : Config) : Option UInt64 :=
  if c.cacheSeconds = 0 then none else some c.cacheSeconds

end Config

end BankQuery
