import Mathlib.Data.List.Forall2
import BankQuery.Proofs.Engine.Calls
import BankQuery.Proofs.Question.Conversation

/-!
# What the asker learns of a failure

A failure holds words for the log: the fault of a refused statement, how long a run took, what a
component had to say. `Failure.Alike` relates failures that differ at most in these. Two backends
that are `Related` differ at most in the words of their failures and in the candidates that the
guard refuses, whatever they are asked for. `Engine.handle_scripts` says that a request then gets
one and the same response and that both backends are asked for the same things: no such words reach
the asker, and an error that is not about the question itself tells nothing but its kind.
-/

namespace BankQuery

/-- Failures that differ at most in the words for the log. -/
inductive Failure.Alike : Failure → Failure → Prop where
  | refl (f : Failure) : Alike f f
  | rejected (a b : Rejection) : Alike (.rejected a) (.rejected b)
  | timedOut (m n : UInt64) : Alike (.timedOut m) (.timedOut n)
  | execution (a b : String) : Alike (.execution a) (.execution b)
  | poolExhausted (a b : String) : Alike (.poolExhausted a) (.poolExhausted b)
  | retrieval (a b : String) : Alike (.retrieval a) (.retrieval b)
  | embedding (a b : String) : Alike (.embedding a) (.embedding b)
  | generation (a b : String) : Alike (.generation a) (.generation b)
  | config (a b : String) : Alike (.config a) (.config b)
  | registry (a b : String) : Alike (.registry a) (.registry b)
  | io (a b : String) : Alike (.io a) (.io b)
  | json (a b : String) : Alike (.json a) (.json b)
  | database (a b : String) : Alike (.database a) (.database b)

namespace Failure

variable {f g : Failure}

theorem Alike.isRetryable_eq (h : f.Alike g) : f.isRetryable = g.isRetryable := by
  cases h <;> rfl

theorem Alike.ofFailure_eq (h : f.Alike g) : Response.ofFailure f = Response.ofFailure g := by
  cases h <;> rfl

/-- Whether a failure of this kind is about the question itself, so that its message repeats words
of the question and of the registry. -/
def Kind.isOpen : Kind → Bool
  | .ambiguousQuery | .unsupportedMetric | .unsupportedBank => true
  | _ => false

def Kind.bare : Kind → Failure
  | .ambiguousQuery => .ambiguous ""
  | .unsupportedMetric => .unsupportedMetric "" []
  | .unsupportedBank => .unsupportedBank "" []
  | .validationRejected => .rejected .notASelect
  | .executionTimeout => .timedOut 0
  | .executionFailure => .execution ""
  | .poolExhausted => .poolExhausted ""
  | .cancelled => .cancelled
  | .internal => .io ""

theorem ofFailure_eq_bare (h : f.kind.isOpen = false) :
    Response.ofFailure f = Response.ofFailure f.kind.bare := by
  cases f with
  | ambiguous _ | unsupportedMetric _ _ | unsupportedBank _ _ => cases h
  | _ => rfl

/-- All failures of a kind that is not about the question itself are told in the same words. -/
theorem ofFailure_eq_of_kind (h : f.kind.isOpen = false) (hk : g.kind = f.kind) :
    Response.ofFailure g = Response.ofFailure f := by
  rw [ofFailure_eq_bare h, ofFailure_eq_bare (hk ▸ h), hk]

inductive AlikeOr {α : Type} (P : α → α → Prop) : Except Failure α → Except Failure α → Prop where
  | ok {x y : α} (h : P x y) : AlikeOr P (.ok x) (.ok y)
  | error {f g : Failure} (h : f.Alike g) : AlikeOr P (.error f) (.error g)

end Failure

open Failure (AlikeOr)

def Candidate.Alike (schema : Schema) (c d : Candidate) : Prop :=
  c = d ∨ (∃ reason, Guard.check schema c = .error reason) ∧
    ∃ reason, Guard.check schema d = .error reason

namespace Backend

variable {α σ τ : Type}

/-- Related results, or failures that are alike, each with a state related to the other. -/
inductive Matched (P : α → α → Prop) (R : σ → τ → Prop) :
    Except Failure α × σ → Except Failure α × τ → Prop where
  | ok {x y : α} {s : σ} {t : τ} (h : P x y) (hs : R s t) : Matched P R (.ok x, s) (.ok y, t)
  | error {f g : Failure} {s : σ} {t : τ} (h : f.Alike g) (hs : R s t) :
      Matched P R (.error f, s) (.error g, t)

/-- Backends that answer alike in related states, whatever rejection they are told, and whose states
are then related again. -/
structure Related (r : Registry) (R : σ → τ → Prop) (b : Backend σ) (b' : Backend τ) : Prop where
  generate : ∀ (q : Question) (context : Context) {last last' : Option Rejection} {s : σ} {t : τ},
    last.isSome = last'.isSome → R s t →
    Matched (Candidate.Alike r.schema) R (b.generate r q context last s)
      (b'.generate r q context last' t)
  execute : ∀ (c : Candidate) (cancelled : Bool) {s : σ} {t : τ}, R s t →
    Matched Eq R (b.execute c cancelled s) (b'.execute c cancelled t)

namespace Related

variable {r : Registry} {R : σ → τ → Prop} {b : Backend σ} {b' : Backend τ} {s : σ} {t : τ}

/-- The same candidate passes the guard, whatever was refused before it. -/
theorem accept (h : Related r R b b') (q : Question) (context : Context) (tries : Nat)
    {last last' : Option Rejection} (hl : last.isSome = last'.isSome) (hs : R s t) :
    Matched Eq R (b.accept r q context tries last s) (b'.accept r q context tries last' t) := by
  induction tries generalizing last last' s t with
  | zero => exact .error (.rejected _ _) hs
  | succ tries ih =>
    have hg := h.generate q context hl hs
    unfold Backend.accept
    generalize b.generate r q context last s = x, b'.generate r q context last' t = y at hg
    cases hg with
    | error hf hs' => exact .error hf hs'
    | @ok c d s' t' hc hs' =>
      rcases hc with rfl | ⟨⟨reason, hc⟩, ⟨reason', hd⟩⟩
      · cases hk : Guard.check r.schema c with
        | ok _ => simpa only [hk] using .ok rfl hs'
        | error reason => simpa only [hk] using ih rfl hs'
      · have hl' : (some reason).isSome = (some reason').isSome := rfl
        simpa only [hc, hd] using ih hl' hs'

theorem attempt (h : Related r R b b') (q : Question) (context : Context) (cancelled : Bool)
    (hs : R s t) :
    Matched Eq R (b.attempt r q context cancelled s) (b'.attempt r q context cancelled t) := by
  have ha := h.accept q context tries (rfl : (none : Option Rejection).isSome = _) hs
  unfold Backend.attempt
  generalize b.accept r q context tries none s = x, b'.accept r q context tries none t = y at ha
  cases ha with
  | error hf hs' => exact .error hf hs'
  | ok hc hs' =>
    subst hc
    exact h.execute _ cancelled hs'

theorem rows (h : Related r R b b') (q : Question) (context : Context) (cancelled : Bool)
    (hs : R s t) :
    Matched Eq R (b.rows r q context cancelled s) (b'.rows r q context cancelled t) := by
  have ha := h.accept q context tries (rfl : (none : Option Rejection).isSome = _) hs
  unfold Backend.rows
  generalize b.accept r q context tries none s = x, b'.accept r q context tries none t = y at ha
  cases ha with
  | error hf hs' => exact .error hf hs'
  | @ok c _ s' t' hc hs' =>
    subst hc
    have he := h.execute c cancelled hs'
    dsimp only
    generalize b.execute c cancelled s' = x, b'.execute c cancelled t' = y at he
    cases he with
    | ok hr hs₁ => exact .ok hr hs₁
    | @error f g _ _ hf hs₁ =>
      -- failures that are alike are tried again alike
      cases hr : f.isRetryable with
      | true =>
        simp only [hr, hf.isRetryable_eq ▸ hr, if_true]
        exact h.attempt q Context.unavailable cancelled hs₁
      | false =>
        simp only [hr, hf.isRetryable_eq ▸ hr, Bool.false_eq_true, if_false]
        exact .error hf hs₁

end Related

end Backend

namespace Engine

variable {σ τ : Type} {e : Engine} {R : σ → τ → Prop} {b : Backend σ} {b' : Backend τ} {s : σ}
  {t : τ}

theorem rows_related (h : Backend.Related e.registry R b b') (i : Invocation) (q : Question)
    (context : Context) (hs : R s t) :
    Backend.Matched Eq (fun x y => x.1 = y.1 ∧ R x.2 y.2) (e.rows b i q context s)
      (e.rows b' i q context t) := by
  have hr := e.registry_kept i q
  unfold Engine.rows
  generalize e.kept i q = kept at hr
  obtain ⟨found, e'⟩ := kept
  cases found with
  | some rows => exact .ok rfl ⟨rfl, hs⟩
  | none =>
    have hb := h.rows q context i.cancelled hs
    dsimp only at hr ⊢
    rw [hr]
    generalize b.rows e.registry q context i.cancelled s = x,
      b'.rows e.registry q context i.cancelled t = y at hb
    cases hb with
    | error hf hs' => exact .error hf ⟨rfl, hs'⟩
    | ok hrows hs' =>
      subst hrows
      exact .ok rfl ⟨rfl, hs'⟩

theorem resolve_related (h : Backend.Related e.registry R b b') (i : Invocation) (text : String)
    (q : Question) (hs : R s t) :
    (e.resolve b i text q s).1 = (e.resolve b' i text q t).1 ∧
      (e.resolve b i text q s).2.1 = (e.resolve b' i text q t).2.1 ∧
      R (e.resolve b i text q s).2.2 (e.resolve b' i text q t).2.2 := by
  have hr := rows_related h i q (e.retriever.retrieve q text) hs
  unfold Engine.resolve
  dsimp only
  generalize e.rows b i q (e.retriever.retrieve q text) s = x,
    e.rows b' i q (e.retriever.retrieve q text) t = y at hr
  cases hr with
  | error hf hs' => exact ⟨hf.ofFailure_eq, hs'⟩
  | @ok rows _ _ _ hrows hs' =>
    subst hrows
    exact ⟨congrArg (fun e : Engine => e.answer q _ rows) hs'.1, hs'⟩

/-- Related backends make the same response and leave the same engine. -/
theorem handle_related (h : Backend.Related e.registry R b b') (i : Invocation) (request : Request)
    (hs : R s t) :
    (e.handle b i request s).1 = (e.handle b' i request t).1 ∧
      (e.handle b i request s).2.1 = (e.handle b' i request t).2.1 ∧
      R (e.handle b i request s).2.2 (e.handle b' i request t).2.2 := by
  unfold Engine.handle
  cases understand e.registry i request with
  | error f => exact ⟨rfl, rfl, hs⟩
  | ok outcome =>
    cases outcome with
    | clarification reason options => exact ⟨rfl, rfl, hs⟩
    | resolved q confidence => exact resolve_related h i request.text q hs

/-- Every error that is told is that of a failure. -/
theorem exists_failure_of_handle {i : Invocation} {request : Request} {kind : Failure.Kind}
    {message : String} {options : List String}
    (h : (e.handle b i request s).1 = .error kind message options) :
    ∃ f : Failure, f.kind = kind ∧ Response.ofFailure f = .error kind message options := by
  have hof {f : Failure} (hf : Response.ofFailure f = .error kind message options) :
      ∃ f : Failure, f.kind = kind ∧ Response.ofFailure f = .error kind message options :=
    ⟨f, (Response.error.inj hf).1, hf⟩
  unfold Engine.handle at h
  split at h
  · exact hof h
  · cases h
  · rename_i q confidence
    unfold Engine.resolve at h
    dsimp only at h
    split at h
    · dsimp only [Engine.answer] at h
      split at h
      · cases h
      · exact hof h
    · exact hof h

end Engine

inductive Order where
  | generate (r : Registry) (q : Question) (context : Context) (afterRejection : Option Rejection)
  | execute (candidate : Candidate) (cancelled : Bool)

namespace Order

def isGeneration : Order → Bool
  | .generate _ _ _ _ => true
  | .execute _ _ => false

def isExecution (o : Order) : Bool := !o.isGeneration

/-- Orders that differ at most in the fault of a refused statement. -/
inductive Alike : Order → Order → Prop where
  | generate (r : Registry) (q : Question) (context : Context) {last last' : Option Rejection}
      (h : last.isSome = last'.isSome) :
      Alike (.generate r q context last) (.generate r q context last')
  | execute (c : Candidate) (cancelled : Bool) : Alike (.execute c cancelled) (.execute c cancelled)

theorem Alike.isGeneration_eq {x y : Order} (h : x.Alike y) : x.isGeneration = y.isGeneration := by
  cases h <;> rfl

theorem Alike.isExecution_eq {x y : Order} (h : x.Alike y) : x.isExecution = y.isExecution :=
  congrArg not h.isGeneration_eq

theorem Alike.countP_eq {p : Order → Bool} (hp : ∀ {x y : Order}, x.Alike y → p x = p y)
    {xs ys : List Order} (h : List.Forall₂ Alike xs ys) : xs.countP p = ys.countP p := by
  induction h with
  | nil => rfl
  | cons hx _ ih => rw [List.countP_cons, List.countP_cons, hp hx, ih]

end Order

structure Script where
  generations : Nat → Except Failure Candidate
  executions : Nat → Except Failure (List Row)

namespace Script

/-- A backend that follows the script and notes what it is asked for, the last order first. -/
def backend (script : Script) : Backend (List Order) where
  generate r q context rejection orders :=
    (script.generations (orders.countP Order.isGeneration),
      .generate r q context rejection :: orders)
  execute c cancelled orders :=
    (script.executions (orders.countP Order.isExecution),
      .execute c cancelled :: orders)

/-- Scripts that agree step by step except in the words of failures and in refused candidates. -/
structure Alike (schema : Schema) (a b : Script) : Prop where
  generations : ∀ n, AlikeOr (Candidate.Alike schema) (a.generations n) (b.generations n)
  executions : ∀ n, AlikeOr Eq (a.executions n) (b.executions n)

theorem Alike.related {r : Registry} {a b : Script} (h : a.Alike r.schema b) :
    Backend.Related r (List.Forall₂ Order.Alike) a.backend b.backend where
  generate q context {last last'} {s t} hl hs := by
    have ho : List.Forall₂ Order.Alike (.generate r q context last :: s)
        (.generate r q context last' :: t) := .cons (.generate r q context hl) hs
    have hg := h.generations (t.countP Order.isGeneration)
    simp only [backend, Order.Alike.countP_eq Order.Alike.isGeneration_eq hs]
    generalize a.generations _ = x, b.generations _ = y at hg
    cases hg with
    | ok hc => exact .ok hc ho
    | error hf => exact .error hf ho
  execute c cancelled {s t} hs := by
    have ho : List.Forall₂ Order.Alike (.execute c cancelled :: s) (.execute c cancelled :: t) :=
      .cons (.execute c cancelled) hs
    have he := h.executions (t.countP Order.isExecution)
    simp only [backend, Order.Alike.countP_eq Order.Alike.isExecution_eq hs]
    generalize a.executions _ = x, b.executions _ = y at he
    cases he with
    | ok hr => exact .ok hr ho
    | error hf => exact .error hf ho

end Script

namespace Engine

/-- Scripts that agree except in the words of failures and in refused candidates lead to the same
response and the same kept results, through the same orders. What an error tells is settled by its
kind alone, unless it is about the question itself. -/
theorem handle_scripts (e : Engine) (i : Invocation) (request : Request) (a b : Script)
    (h : a.Alike e.registry.schema b) :
    (e.handle a.backend i request []).1 = (e.handle b.backend i request []).1 ∧
    (e.handle a.backend i request []).2.1 = (e.handle b.backend i request []).2.1 ∧
    List.Forall₂ Order.Alike (e.handle a.backend i request []).2.2
      (e.handle b.backend i request []).2.2 ∧
    ∀ kind message options,
      (e.handle a.backend i request []).1 = .error kind message options →
      kind.isOpen = false →
      ∀ f : Failure, f.kind = kind → Response.ofFailure f = .error kind message options := by
  obtain ⟨hresponse, hengine, horders⟩ := handle_related h.related i request .nil
  refine ⟨hresponse, hengine, horders, fun kind message options he hk f hf => ?_⟩
  obtain ⟨g, hg, hshown⟩ := exists_failure_of_handle he
  rw [Failure.ofFailure_eq_of_kind (hg ▸ hk) (hf.trans hg.symm), hshown]

def bareEngine : Engine where
  registry := Question.twoBanksServed
  retriever := ⟨fun _ => none, fun _ _ _ _ => .ok [], 0, 0⟩

def candidateOf (statement : String) : Candidate where
  statement
  parameters := [⟨"$1", .text "2025-06-01"⟩]
  tables := []
  columns := []
  mode := .single
  topN := none
  attempt := 1

/-- A refused statement, one that passes and takes too long, and no third one. -/
def troubled (refused : String) (milliseconds : UInt64) (detail : String) : Script where
  generations
    | 0 => .ok (candidateOf refused)
    | 1 => .ok (candidateOf "SELECT mora FROM kpis WHERE mes = $1")
    | _ => .error (.generation detail)
  executions _ := .error (.timedOut milliseconds)

theorem handle_scripts_troubled :
    let a := troubled "DROP TABLE kpis" 100 "tabla kpis"
    let b := troubled "SELECT mora FROM clientes" 2500 "columna banco"
    let i : Invocation := { anchor := Question.midMonth }
    let request : Request := { text := "mora norte" }
    a.Alike bareEngine.registry.schema b ∧
    (bareEngine.handle a.backend i request []).1.errorKind? = some .internal ∧
    (bareEngine.handle a.backend i request []).1 = (bareEngine.handle b.backend i request []).1 ∧
    (bareEngine.handle a.backend i request []).2.1 =
      (bareEngine.handle b.backend i request []).2.1 ∧
    List.Forall₂ Order.Alike (bareEngine.handle a.backend i request []).2.2
      (bareEngine.handle b.backend i request []).2.2 ∧
    ∀ kind message options,
      (bareEngine.handle a.backend i request []).1 = .error kind message options →
      kind.isOpen = false →
      ∀ f : Failure, f.kind = kind → Response.ofFailure f = .error kind message options := by
  intro a b i request
  have ha : ∃ reason, Guard.check bareEngine.registry.schema (candidateOf "DROP TABLE kpis") =
      .error reason := ⟨.forbiddenKeyword "DROP", by decide +kernel⟩
  have hb : ∃ reason, Guard.check bareEngine.registry.schema
      (candidateOf "SELECT mora FROM clientes") = .error reason :=
    ⟨.unknownTable "clientes", by decide +kernel⟩
  have h : a.Alike bareEngine.registry.schema b := by
    refine ⟨fun n => ?_, fun _ => .error (.timedOut 100 2500)⟩
    match n with
    | 0 => exact .ok (.inr ⟨ha, hb⟩)
    | 1 => exact .ok (.inl rfl)
    | n + 2 => exact .error (.generation "tabla kpis" "columna banco")
  exact ⟨h, by decide +kernel, handle_scripts bareEngine i request a b h⟩

end Engine

end BankQuery
