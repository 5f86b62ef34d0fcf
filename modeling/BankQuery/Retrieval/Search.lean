import BankQuery.Question.Basic
import BankQuery.Retrieval.Corpus

/-!
# Searching for context

Three searches ground a statement: in the documentation of the schema, among the definitions of the
metric, and among examples of the same layout. Hits below the least relevance are left out, and a
search that fails leaves its list empty and marks the context as degraded. If the question cannot be
embedded there is no search at all.
-/

namespace BankQuery

structure Retriever where
  embed : String → Option Embedding
  search : String → Embedding → Metadata → Nat → Except RetrievalFault (List Snippet)
  /-- How many snippets of each kind. -/
  limit : Nat
  /-- The least score of a snippet. -/
  least : Float32

namespace Retriever

def rank (t : Retriever) (hits : List Snippet) : List Snippet :=
  (sortBy Store.ranksBefore (hits.filter fun h => h.score ≥ t.least)).take t.limit

def ranked (t : Retriever) (collection : String) (vector : Embedding) (wanted : Metadata) :
    Except RetrievalFault (List Snippet) :=
  (t.search collection vector wanted t.limit).map t.rank

def found (hits : Except RetrievalFault (List Snippet)) : List Snippet :=
  match hits with
  | .ok snippets => snippets
  | .error _ => []

def failed (hits : Except RetrievalFault (List Snippet)) : Bool :=
  match hits with
  | .ok _ => false
  | .error _ => true

/-- Definitions of the metric alone, when the question has one. -/
def metricFilter (q : Question) : Metadata :=
  match q.metric with
  | some m => [("metric", m)]
  | none => []

def exampleFilter (q : Question) : Metadata := [("mode", q.mode.name)]

def retrieve (t : Retriever) (q : Question) (text : String) : Context :=
  match t.embed text with
  | none => Context.unavailable
  | some vector =>
    let schema := t.ranked Corpus.schemaCollection vector []
    let metrics := t.ranked Corpus.metricCollection vector (metricFilter q)
    let examples := t.ranked Corpus.exampleCollection vector (exampleFilter q)
    { schema := found schema, metrics := found metrics, examples := found examples
      degraded := failed schema || failed metrics || failed examples }

def ofStore (s : Store) (embed : String → Embedding) (limit : Nat) (least : Float32) : Retriever :=
  { embed := fun text => some (embed text), search := s.search, limit, least }

end Retriever

end BankQuery
