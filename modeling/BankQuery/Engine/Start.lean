import BankQuery.Address.Setting
import BankQuery.Engine.Basic

/-!
# Starting an engine

An engine starts with the registry of a file, if its configuration names one, or with the standard
registry. The registry is read before the address of the database is looked at. What a database
driver has to say of an address that it cannot take is left out: one sentence stands for it.
-/

namespace BankQuery.Engine

def standardDimension : Nat := 256

/-- The registry to start with, where `content` is what is read from the file of the
configuration. -/
def firstRegistry (config : Config) (content : Except String String) : Except Failure Registry :=
  match config.registryPath with
  | none => .ok Registry.standard
  | some _ => Registry.ofFile content

/-- The address of the database, if a connection can be prepared for it. -/
def address (config : Config) : Except Failure String :=
  match config.databaseUrl with
  | none => .error (.config ConfigFault.noDatabaseUrl.message)
  | some url => if Address.isValid url then .ok url
    else .error (.database "not the address of a database")

/-- Retrieval from the corpus of a registry, embedded here. An embedding service is out of reach,
and where one is configured questions are not embedded at all. -/
def firstRetriever (config : Config) (r : Registry) : Retriever :=
  let embed := Embedding.ofText standardDimension
  let store := Corpus.seeded standardDimension embed r
  { Retriever.ofStore store embed config.retrievalLimit.toNat config.leastRelevance with
    embed := fun text => if config.embeddingKey.isSome then none else some (embed text) }

def start (config : Config) (content : Except String String) (chart : Chart.Options) :
    Except Failure Engine := do
  let r ← firstRegistry config content
  let _ ← address config
  return ofConfig config r (firstRetriever config r) chart

end BankQuery.Engine
