import BankQuery.Chart.Basic
import BankQuery.Engine.Backend
import BankQuery.Engine.Cache
import BankQuery.Files
import BankQuery.Question.Reading
import BankQuery.Registry.Standard
import BankQuery.Retrieval.Search

/-!
# The engine

One request after the other: a text is screened and read as a question, context is retrieved for it,
its rows come from the cache or from the backend, and the rows become a chart. Each of the first
steps may end the request with a clarification or a failure. Of a failure the asker learns its kind
and a message, and the choices to offer instead.
-/

namespace BankQuery

/-- A question as it is asked, with the one before it in a conversation. -/
structure Request where
  text : String
  prior : Option Question := none

/-- When a request is made, and whether the asker has gone away. -/
structure Invocation where
  anchor : Anchor
  /-- Seconds on a clock that only the cache looks at. -/
  now : Nat := 0
  cancelled : Bool := false

inductive Response where
  /-- A chart, whether context was missing, and the question as it was understood. -/
  | answer (chart : Chart) (degraded : Bool) (question : Question)
  | clarification (message : String) (options : List String)
  | error (kind : Failure.Kind) (message : String) (options : List String)

def Response.ofFailure (f : Failure) : Response := .error f.kind f.publicMessage f.options

def Response.errorKind? : Response → Option Failure.Kind
  | .error kind _ _ => some kind
  | _ => none

def Response.question? : Response → Option Question
  | .answer _ _ question => some question
  | _ => none

structure Engine where
  registry : Registry
  retriever : Retriever
  cache : Option Cache := none
  chart : Chart.Options := {}

namespace Engine

variable {σ : Type}

def understand (r : Registry) (i : Invocation) (request : Request) : Except Failure Outcome :=
  match Guard.screen request.text with
  | some reason => .error (.rejected reason)
  | none => Question.read r {} i.anchor request.prior request.text

/-- The rows kept for a question, and the engine without them if they are too old. -/
def kept (e : Engine) (i : Invocation) (q : Question) : Option (List Row) × Engine :=
  match e.cache with
  | none => (none, e)
  | some c =>
    let (rows, c) := c.get i.now q
    (rows, { e with cache := some c })

def keep (e : Engine) (i : Invocation) (q : Question) (rows : List Row) : Engine :=
  { e with cache := e.cache.map fun c => c.insert i.now q rows }

def rows (b : Backend σ) (e : Engine) (i : Invocation) (q : Question) (context : Context) (s : σ) :
    Except Failure (List Row) × Engine × σ :=
  match e.kept i q with
  | (some rows, e) => (.ok rows, e, s)
  | (none, e) =>
    match b.rows e.registry q context i.cancelled s with
    | (.ok rows, s) => (.ok rows, e.keep i q rows, s)
    | (.error f, s) => (.error f, e, s)

def answer (e : Engine) (q : Question) (degraded : Bool) (rows : List Row) : Response :=
  match Chart.ofRows? e.chart e.registry q rows with
  | some chart => .answer chart degraded q
  | none => .ofFailure (.unregistered (q.metric.getD ""))

def resolve (b : Backend σ) (e : Engine) (i : Invocation) (text : String) (q : Question) (s : σ) :
    Response × Engine × σ :=
  let context := e.retriever.retrieve q text
  match e.rows b i q context s with
  | (.ok rows, e, s) => (e.answer q context.degraded rows, e, s)
  | (.error f, e, s) => (.ofFailure f, e, s)

def handle (b : Backend σ) (e : Engine) (i : Invocation) (request : Request) (s : σ) :
    Response × Engine × σ :=
  match understand e.registry i request with
  | .error f => (.ofFailure f, e, s)
  | .ok (.clarification reason options) => (.clarification reason options, e, s)
  | .ok (.resolved q _) => e.resolve b i request.text q s

/-- Take another registry, unless it fails its check. What is kept stays. -/
def replace (e : Engine) (r : Registry) : Except RegistryFault Engine := do
  r.check
  return { e with registry := r }

def cached (e : Engine) : Nat := (e.cache.map Cache.size).getD 0

def ofConfig (config : Config) (r : Registry) (retriever : Retriever) (chart : Chart.Options) :
    Engine :=
  { registry := r, retriever, chart,
    cache := config.cacheTime?.map fun seconds => { lifetime := seconds.toNat } }

def generation (config : Config) : Generation.Options := .ofLimit config.rankingLimit

end Engine

end BankQuery
