import BankQuery.Config.Basic
import BankQuery.Json.Decode

/-! # Configuration as JSON: every setting may be left out, and then has its default. -/

namespace BankQuery.Config

open Json

def ofJson? (j : Json) : Option Config := do
  let d : Config := {}
  match ← fields [defaulted "database_url", defaulted "max_connections",
      defaulted "acquire_timeout_ms", defaulted "statement_timeout_ms",
      defaulted "retrieval_timeout_ms", defaulted "retrieval_top_k", defaulted "min_relevance",
      defaulted "default_ranking_limit", defaulted "cache_ttl_secs", defaulted "registry_path",
      defaulted "embedding_api_key", defaulted "embedding_base_url",
      defaulted "embedding_model"] j with
  | [databaseUrl, maxConnections, acquireTimeout, statementTimeout, retrievalTimeout,
      retrievalLimit, leastRelevance, rankingLimit, cacheSeconds, registryPath, embeddingKey,
      embeddingUrl, embeddingModel] =>
    return { databaseUrl := ← maybe text? databaseUrl,
             maxConnections := ← orElse d.maxConnections uint32? maxConnections,
             acquireTimeout := ← orElse d.acquireTimeout uint64? acquireTimeout,
             statementTimeout := ← orElse d.statementTimeout uint64? statementTimeout,
             retrievalTimeout := ← orElse d.retrievalTimeout uint64? retrievalTimeout,
             retrievalLimit := ← orElse d.retrievalLimit uint64? retrievalLimit,
             leastRelevance := ← orElse d.leastRelevance float32? leastRelevance,
             rankingLimit := ← orElse d.rankingLimit uint32? rankingLimit,
             cacheSeconds := ← orElse d.cacheSeconds uint64? cacheSeconds,
             registryPath := ← maybe text? registryPath,
             embeddingKey := ← maybe text? embeddingKey,
             embeddingUrl := ← orElse d.embeddingUrl text? embeddingUrl,
             embeddingModel := ← orElse d.embeddingModel text? embeddingModel }
  | _ => none

def toJson (c : Config) : Json :=
  .object [("database_url", Json.ofOption .string c.databaseUrl),
    ("max_connections", .int c.maxConnections.toNat),
    ("acquire_timeout_ms", .int c.acquireTimeout.toNat),
    ("statement_timeout_ms", .int c.statementTimeout.toNat),
    ("retrieval_timeout_ms", .int c.retrievalTimeout.toNat),
    ("retrieval_top_k", .int c.retrievalLimit.toNat),
    ("min_relevance", .float c.leastRelevance.toFloat),
    ("default_ranking_limit", .int c.rankingLimit.toNat),
    ("cache_ttl_secs", .int c.cacheSeconds.toNat),
    ("registry_path", Json.ofOption .string c.registryPath),
    ("embedding_api_key", Json.ofOption .string c.embeddingKey),
    ("embedding_base_url", .string c.embeddingUrl),
    ("embedding_model", .string c.embeddingModel)]

end BankQuery.Config
