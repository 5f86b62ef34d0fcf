/-!
# Retrieved context

Snippets of the registry's documentation that were found to be like a question. A context is used
for one request; it is degraded when a search did not answer.
-/

namespace BankQuery

/-- Names with values, at most one for each name. -/
abbrev Metadata := List (String × String)

structure Snippet where
  text : String
  score : Float32
  metadata : Metadata := []

def Snippet.meta? (s : Snippet) (name : String) : Option String := s.metadata.lookup name

structure Context where
  schema : List Snippet := []
  metrics : List Snippet := []
  examples : List Snippet := []
  degraded : Bool := false

namespace Context

def empty : Context := {}

/-- The context of a request whose searches did not answer. -/
def unavailable : Context := { degraded := true }

def isEmpty (c : Context) : Bool := c.schema.isEmpty && c.metrics.isEmpty && c.examples.isEmpty

end Context

end BankQuery
