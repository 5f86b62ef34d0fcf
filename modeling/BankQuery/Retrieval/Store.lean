import BankQuery.Retrieval.Context
import BankQuery.Retrieval.Embedding
import BankQuery.Sorting

/-!
# The store of documents

Named collections of documents with their embeddings. Adding a document replaces the one of the same
name in its collection and puts it last. A search compares a vector with every document that has the
wanted metadata and returns the most similar, of equally similar ones the earlier.
-/

namespace BankQuery

structure Document where
  id : String
  text : String
  metadata : Metadata
deriving DecidableEq

structure Entry where
  document : Document
  embedding : Embedding

inductive RetrievalFault where
  | documentDimension (found expected : Nat)
  | queryDimension (found expected : Nat)
  | unavailable (detail : String)
deriving DecidableEq

def RetrievalFault.message : RetrievalFault → String
  | .documentDimension found expected =>
    "Embedding dimension " ++ Nat.repr found ++ " doesn't match store dimension " ++
      Nat.repr expected
  | .queryDimension found expected =>
    "Query embedding dimension " ++ Nat.repr found ++ " doesn't match store dimension " ++
      Nat.repr expected
  | .unavailable detail => detail

structure Store where
  dimension : Nat
  collections : List (String × List Entry) := []

def Document.hasAll (d : Document) (wanted : Metadata) : Bool :=
  wanted.all fun w => d.metadata.lookup w.1 == some w.2

namespace Store

def empty (dimension : Nat) : Store := ⟨dimension, []⟩

/-- The documents of a collection, in the order in which they were added. -/
def documents (s : Store) (collection : String) : List Entry :=
  (s.collections.lookup collection).getD []

def size (s : Store) (collection : String) : Nat := (s.documents collection).length

def isEmpty (s : Store) : Bool := s.collections.all fun c => c.2.isEmpty

/-- Change the entries of one collection, which is added if it is new. -/
def change (f : List Entry → List Entry) (collection : String) :
    List (String × List Entry) → List (String × List Entry)
  | [] => [(collection, f [])]
  | (name, entries) :: rest =>
    if name = collection then (name, f entries) :: rest
    else (name, entries) :: change f collection rest

/-- Put an entry last and drop the earlier one of its name. -/
def place (e : Entry) (entries : List Entry) : List Entry :=
  (entries.filter fun other => other.document.id != e.document.id) ++ [e]

def add (s : Store) (collection : String) (e : Entry) : Except RetrievalFault Store :=
  if e.embedding.length ≠ s.dimension then
    .error (.documentDimension e.embedding.length s.dimension)
  else .ok { s with collections := change (place e) collection s.collections }

def snippet (vector : Embedding) (e : Entry) : Snippet :=
  ⟨e.document.text, Embedding.cosine vector e.embedding, e.document.metadata⟩

def ranksBefore (a b : Snippet) : Bool := b.score < a.score

/-- The `limit` most similar documents with the wanted metadata. -/
def search (s : Store) (collection : String) (vector : Embedding) (wanted : Metadata)
    (limit : Nat) : Except RetrievalFault (List Snippet) :=
  if vector.length ≠ s.dimension then .error (.queryDimension vector.length s.dimension)
  else
    let found := (s.documents collection).filter fun e => e.document.hasAll wanted
    .ok ((sortBy ranksBefore (found.map (snippet vector))).take limit)

end Store

end BankQuery
