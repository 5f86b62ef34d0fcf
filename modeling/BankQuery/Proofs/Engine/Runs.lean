import BankQuery.Proofs.Engine.Calls
import BankQuery.Proofs.Question.Key
import Mathlib.Data.List.Nodup

/-!
# Runs of an engine

A run is a list of steps, of which each is a request or the offer of another registry. `Turn.Ended`
says all that a request can come to while nothing that is kept is too old; what a whole run keeps
follows by induction, one turn after the other.
-/

namespace BankQuery

variable {σ : Type}

inductive Step where
  | ask (i : Invocation) (request : Request)
  | replace (r : Registry)

def Step.time? : Step → Option Nat
  | .ask i _ => some i.now
  | .replace _ => none

namespace Registry

/-- The offered registry if it passes its check, and otherwise the one in place. -/
def refreshed (r offered : Registry) : Registry :=
  match offered.check with
  | .error _ => r
  | .ok _ => offered

def after : Registry → List Step → Registry
  | r, [] => r
  | r, .ask _ _ :: steps => after r steps
  | r, .replace offered :: steps => after (r.refreshed offered) steps

theorem after_of_fixed {steps : List Step} (h : ∀ r, Step.replace r ∉ steps) (r : Registry) :
    r.after steps = r := by
  induction steps with
  | nil => rfl
  | cons step steps ih =>
    cases step with
    | ask i request => exact ih fun r hr => h r (List.mem_cons_of_mem _ hr)
    | replace offered => exact absurd List.mem_cons_self (h offered)

end Registry

def Call.rows? : Call → Option (List Row)
  | .execute _ (.ok rows) => some rows
  | _ => none

/-- A request of a run, with the engine and the state of the backend that it finds. -/
structure Turn (σ : Type) where
  invocation : Invocation
  request : Request
  engine : Engine
  state : σ

namespace Turn

def response (b : Backend σ) (t : Turn σ) : Response :=
  (t.engine.handle b t.invocation t.request t.state).1

def after (b : Backend σ) (t : Turn σ) : Engine :=
  (t.engine.handle b t.invocation t.request t.state).2.1

def calls (b : Backend σ) (t : Turn σ) : List Call :=
  t.engine.calls b t.invocation t.request t.state

def question? (t : Turn σ) : Option Question :=
  match Engine.understand t.engine.registry t.invocation t.request with
  | .ok (.resolved q _) => some q
  | _ => none

def context (t : Turn σ) (q : Question) : Context := t.engine.retriever.retrieve q t.request.text

/-- The runs of the request that succeed, as the rows that they give for its question. -/
def gained (b : Backend σ) (t : Turn σ) : List (Question × List Row) :=
  t.question?.toList.flatMap fun q => ((t.calls b).filterMap Call.rows?).map (q, ·)

end Turn

namespace Engine

def refreshed (e : Engine) (r : Registry) : Engine := (e.replace r).toOption.getD e

def run (b : Backend σ) : Engine → List Step → σ → Engine × σ
  | e, [], s => (e, s)
  | e, .ask i request :: steps, s =>
    run b (e.handle b i request s).2.1 steps (e.handle b i request s).2.2
  | e, .replace r :: steps, s => run b (e.refreshed r) steps s

def turns (b : Backend σ) : Engine → List Step → σ → List (Turn σ)
  | _, [], _ => []
  | e, .ask i request :: steps, s =>
    ⟨i, request, e, s⟩ :: turns b (e.handle b i request s).2.1 steps (e.handle b i request s).2.2
  | e, .replace r :: steps, s => turns b (e.refreshed r) steps s

def find? (e : Engine) (q : Question) : Option CachedRows := e.results.find? fun x => x.key == q.key

def FreshAt (e : Engine) (now : Nat) : Prop :=
  ∀ c ∈ e.cache, ∀ x ∈ c.entries, now - x.storedAt < c.lifetime

/-- Nothing that is kept, or will be, becomes too old while the steps are made. -/
structure Lasts (e : Engine) (steps : List Step) : Prop where
  stored : ∀ now ∈ steps.filterMap Step.time?, e.FreshAt now
  gained : ∀ c ∈ e.cache, (steps.filterMap Step.time?).Pairwise fun earlier later =>
    later - earlier < c.lifetime

end Engine

section Rows

variable {schema : Schema}

/-- Calls for one candidate give no rows. -/
theorem Asked.filterMap_rows? {tries : Nat} {last : Option Rejection} {calls : List Call}
    {result : Option Candidate} (h : Asked schema tries last calls result) :
    calls.filterMap Call.rows? = [] := by
  refine List.filterMap_eq_nil_iff.mpr fun x hx => ?_
  have hg := h.isGeneration x hx
  cases x with
  | generate _ _ => rfl
  | execute _ _ => cases hg

/-- Of the runs for a question one succeeds if there are rows, and none otherwise. -/
theorem Served.filterMap_rows? {calls : List Call} {result : Except Failure (List Row)}
    (h : Served schema calls result) : calls.filterMap Call.rows? = result.toOption.toList := by
  have hfailed (c : Candidate) (f : Failure) : Call.rows? (.execute c (.error f)) = none := rfl
  have hlast (c : Candidate) (result : Except Failure (List Row)) :
      [Call.execute c result].filterMap Call.rows? = result.toOption.toList := by
    cases result with
    | ok rows => rfl
    | error f => rfl
  cases h with
  | unasked f ha => exact ha.filterMap_rows?
  | answered rows ha => rw [List.filterMap_append, ha.filterMap_rows?, hlast, List.nil_append]
  | broken ha _ => rw [List.filterMap_append, ha.filterMap_rows?, hlast, List.nil_append]
  | abandoned g ha _ hb =>
    rw [List.filterMap_append, ha.filterMap_rows?, List.filterMap_cons_none (hfailed _ _),
      hb.filterMap_rows?]
    rfl
  | retried result ha _ hb =>
    rw [List.filterMap_append, ha.filterMap_rows?, List.filterMap_cons_none (hfailed _ _),
      List.filterMap_append, hb.filterMap_rows?, hlast, List.nil_append, List.nil_append]

theorem Asked.ne_nil {tries : Nat} {last : Option Rejection} {calls : List Call}
    {result : Option Candidate} (h : Asked schema (tries + 1) last calls result) : calls ≠ [] := by
  cases h with
  | failed _ _ _ => exact List.cons_ne_nil _ _
  | passed _ _ _ => exact List.cons_ne_nil _ _
  | refused _ _ _ => exact List.cons_ne_nil _ _

/-- For the rows of a question the backend is asked. -/
theorem Served.ne_nil {calls : List Call} {result : Except Failure (List Row)}
    (h : Served schema calls result) : calls ≠ [] := by
  cases h with
  | unasked _ ha => exact ha.ne_nil
  | answered _ _ => exact List.append_ne_nil_of_right_ne_nil _ (List.cons_ne_nil _ _)
  | broken _ _ => exact List.append_ne_nil_of_right_ne_nil _ (List.cons_ne_nil _ _)
  | abandoned _ _ _ _ => exact List.append_ne_nil_of_right_ne_nil _ (List.cons_ne_nil _ _)
  | retried _ _ _ _ => exact List.append_ne_nil_of_right_ne_nil _ (List.cons_ne_nil _ _)

end Rows

namespace Engine

variable {b : Backend σ} {e : Engine} {i : Invocation} {q : Question} {s : σ}

theorem kept_of_freshAt (hf : e.FreshAt i.now) (q : Question) :
    e.kept i q = ((e.find? q).map CachedRows.rows, e) := by
  unfold kept find? results
  cases hc : e.cache with
  | none => rfl
  | some c =>
    simp only [Option.map_some, Option.getD_some, Cache.get]
    cases hx : c.entries.find? fun x => x.key == q.key with
    | none =>
      simp only [Option.map_none]
      rw [← hc]
    | some x =>
      have hfresh : c.isFresh i.now x = true :=
        decide_eq_true (hf c hc x (List.mem_of_find?_eq_some hx))
      simp only [hfresh, if_true, Option.map_some]
      rw [← hc]

theorem resolve_of_kept (hf : e.FreshAt i.now) {x : CachedRows} (hx : e.find? q = some x)
    (b : Backend σ) (text : String) (s : σ) : e.resolve b i text q s =
      (e.answer q (e.retriever.retrieve q text).degraded x.rows, e, s) := by
  simp only [resolve, rows, kept_of_freshAt hf, hx, Option.map_some]

theorem resolve_of_not_kept (hf : e.FreshAt i.now) (hx : e.find? q = none) (b : Backend σ)
    (text : String) (s : σ) : e.resolve b i text q s =
      match b.rows e.registry q (e.retriever.retrieve q text) i.cancelled s with
      | (.ok rows, s) => ((e.keep i q rows).answer q (e.retriever.retrieve q text).degraded rows,
          e.keep i q rows, s)
      | (.error f, s) => (.ofFailure f, e, s) := by
  simp only [resolve, rows, kept_of_freshAt hf, hx, Option.map_none]
  cases b.rows e.registry q (e.retriever.retrieve q text) i.cancelled s with
  | mk result s' =>
    cases result with
    | ok _ => rfl
    | error _ => rfl

/-- Of an engine a request changes at most what is kept. -/
theorem handle_engine (b : Backend σ) (e : Engine) (i : Invocation) (request : Request) (s : σ) :
    ∃ cache, (e.handle b i request s).2.1 = { e with cache } := by
  have hkept (q : Question) : ∃ cache, (e.kept i q).2 = { e with cache } := by
    unfold kept
    split
    · exact ⟨e.cache, rfl⟩
    · exact ⟨_, rfl⟩
  have hrows (q : Question) (context : Context) :
      ∃ cache, (e.rows b i q context s).2.1 = { e with cache } := by
    obtain ⟨cache, hcache⟩ := hkept q
    unfold rows
    split
    · rename_i he
      rw [he] at hcache
      exact ⟨cache, hcache⟩
    · rename_i he
      rw [he] at hcache
      simp only at hcache
      split
      · exact ⟨_, by rw [hcache, keep]⟩
      · exact ⟨cache, hcache⟩
  unfold handle
  split
  · exact ⟨e.cache, rfl⟩
  · exact ⟨e.cache, rfl⟩
  · rename_i q _ _
    obtain ⟨cache, hcache⟩ := hrows q (e.retriever.retrieve q request.text)
    unfold resolve
    dsimp only
    split
    · rename_i he
      rw [he] at hcache
      exact ⟨cache, hcache⟩
    · rename_i he
      rw [he] at hcache
      exact ⟨cache, hcache⟩

end Engine

namespace Turn

variable {b : Backend σ} {t t' : Turn σ} {q : Question}

/-- All that a request can come to while nothing that is kept is too old. -/
inductive Ended (b : Backend σ) (t : Turn σ) : Prop where
  /-- It is not understood as a question. -/
  | unanswered (hq : t.question? = none) (hcalls : t.calls b = []) (hafter : t.after b = t.engine)
      (hresponse : (t.response b).question? = none)
  /-- Rows for its question are kept. -/
  | kept {q : Question} {x : CachedRows} (hq : t.question? = some q)
      (hx : t.engine.find? q = some x) (hcalls : t.calls b = []) (hafter : t.after b = t.engine)
      (hresponse : t.response b = t.engine.answer q (t.context q).degraded x.rows)
  /-- Rows for its question are had from the backend, and are kept. -/
  | gained {q : Question} {rows : List Row} (hq : t.question? = some q)
      (hx : t.engine.find? q = none)
      (hrows : (b.rows t.engine.registry q (t.context q) t.invocation.cancelled t.state).1 =
        .ok rows)
      (hcalls : Served t.engine.registry.schema (t.calls b) (.ok rows))
      (hafter : t.after b = t.engine.keep t.invocation q rows)
      (hresponse : t.response b = t.engine.answer q (t.context q).degraded rows)
  /-- The backend has no rows for its question. -/
  | failed {q : Question} {f : Failure} (hq : t.question? = some q)
      (hx : t.engine.find? q = none)
      (hrows : (b.rows t.engine.registry q (t.context q) t.invocation.cancelled t.state).1 =
        .error f)
      (hcalls : Served t.engine.registry.schema (t.calls b) (.error f))
      (hafter : t.after b = t.engine) (hresponse : t.response b = .ofFailure f)

theorem ended (hf : t.engine.FreshAt t.invocation.now) (b : Backend σ) : t.Ended b := by
  obtain ⟨i, request, e, s⟩ := t
  cases hu : Engine.understand e.registry i request with
  | error f =>
    refine .unanswered ?_ ?_ ?_ ?_
    all_goals simp [question?, calls, after, response, Engine.calls, Engine.handle, hu,
      Response.ofFailure, Response.question?]
  | ok outcome =>
    cases outcome with
    | clarification reason options =>
      refine .unanswered ?_ ?_ ?_ ?_
      all_goals simp [question?, calls, after, response, Engine.calls, Engine.handle, hu,
        Response.question?]
    | resolved q confidence =>
      have hq : (⟨i, request, e, s⟩ : Turn σ).question? = some q := by simp only [question?, hu]
      have hhandle (b : Backend σ) (s : σ) :
          e.handle b i request s = e.resolve b i request.text q s := by
        simp only [Engine.handle, hu]
      have hcalls : e.calls b i request s =
          (e.resolve b.recorded i request.text q (s, [])).2.2.2.reverse := by
        simp only [Engine.calls, Engine.handle, hu]
      cases hx : e.find? q with
      | some x =>
        refine .kept hq hx ?_ ?_ ?_
        · rw [calls, hcalls, Engine.resolve_of_kept hf hx]
          rfl
        · rw [after, hhandle, Engine.resolve_of_kept hf hx]
        · rw [response, hhandle, Engine.resolve_of_kept hf hx]
          rfl
      | none =>
        obtain ⟨made, hserved, hmade⟩ := b.rows_recorded e.registry q
          (e.retriever.retrieve q request.text) i.cancelled s []
        have hresolve := Engine.resolve_of_not_kept hf hx b request.text s
        have hrecorded := Engine.resolve_of_not_kept hf hx b.recorded request.text (s, [])
        rw [hmade] at hrecorded
        cases hr : b.rows e.registry q (e.retriever.retrieve q request.text) i.cancelled s with
        | mk result s' =>
          rw [hr] at hserved hresolve hrecorded
          cases result with
          | ok rows =>
            refine .gained hq hx (congrArg Prod.fst hr) ?_ ?_ ?_
            · rw [calls, hcalls, hrecorded, List.append_nil, List.reverse_reverse]
              exact hserved
            · rw [after, hhandle, hresolve]
            · rw [response, hhandle, hresolve]
              rfl
          | error f =>
            refine .failed hq hx (congrArg Prod.fst hr) ?_ ?_ ?_
            · rw [calls, hcalls, hrecorded, List.append_nil, List.reverse_reverse]
              exact hserved
            · rw [after, hhandle, hresolve]
            · rw [response, hhandle, hresolve]

/-- What is no question is answered by the registry alone. -/
theorem response_of_unasked (hq : t.question? = none) (hr : t'.engine.registry = t.engine.registry)
    (hi : t'.invocation = t.invocation) (hrequest : t'.request = t.request) :
    t'.response b = t.response b := by
  unfold question? at hq
  unfold response Engine.handle
  rw [hr, hi, hrequest]
  cases hu : Engine.understand t.engine.registry t.invocation t.request with
  | error f => rfl
  | ok outcome =>
    cases outcome with
    | clarification reason options => rfl
    | resolved q confidence => simp [hu] at hq

/-- A question is answered with the rows that are kept for it, or else with those of the backend. -/
theorem response_of_asked (hf : t.engine.FreshAt t.invocation.now) (hq : t.question? = some q)
    (b : Backend σ) : t.response b =
      match t.engine.find? q with
      | some kept => t.engine.answer q (t.context q).degraded kept.rows
      | none =>
        match (b.rows t.engine.registry q (t.context q) t.invocation.cancelled t.state).1 with
        | .ok rows => t.engine.answer q (t.context q).degraded rows
        | .error f => .ofFailure f := by
  cases t.ended hf b with
  | unanswered hq' _ _ _ =>
    rw [hq] at hq'
    cases hq'
  | kept hq' hx _ _ hresponse =>
    cases hq.symm.trans hq'
    rw [hresponse, hx]
  | gained hq' hx hrows _ _ hresponse =>
    cases hq.symm.trans hq'
    rw [hresponse, hx]
    simp only [hrows]
  | failed hq' hx hrows _ _ hresponse =>
    cases hq.symm.trans hq'
    rw [hresponse, hx]
    simp only [hrows]

theorem gained_of_calls_eq_nil (h : t.calls b = []) : t.gained b = [] := by
  rw [gained, h]
  exact List.flatMap_eq_nil_iff.mpr fun _ _ => rfl

theorem gained_of_served {schema : Schema} {result : Except Failure (List Row)}
    (hq : t.question? = some q) (h : Served schema (t.calls b) result) :
    t.gained b = result.toOption.toList.map (q, ·) := by
  simp only [gained, hq, h.filterMap_rows?, Option.toList_some, List.flatMap_cons,
    List.flatMap_nil, List.append_nil]

end Turn

namespace Engine

variable {b : Backend σ} {e : Engine} {i : Invocation} {q : Question} {rows : List Row}

def held (e : Engine) : List (String × List Row) := e.results.map fun x => (x.key, x.rows)

theorem find?_eq_none_iff : e.find? q = none ↔ q.key ∉ e.held.map Prod.fst := by
  rw [find?, List.find?_eq_none, held, List.map_map]
  simp only [beq_iff_eq, List.mem_map, Function.comp_apply, not_exists, not_and]

theorem mem_held_of_find? {x : CachedRows} (h : e.find? q = some x) : (q.key, x.rows) ∈ e.held := by
  unfold find? at h
  have hkey := List.find?_some h
  exact List.mem_map.mpr ⟨x, List.mem_of_find?_eq_some h,
    congrArg (·, x.rows) (beq_iff_eq.mp hkey)⟩

theorem isSome_cache_of_find? {x : CachedRows} (h : e.find? q = some x) :
    e.cache.isSome = true := by
  have hmem := List.mem_of_find?_eq_some h
  cases hc : e.cache with
  | some c => rfl
  | none =>
    rw [results, hc] at hmem
    cases hmem

/-- What is not too old is kept beside what is new. -/
theorem cache_keep (hf : e.FreshAt i.now) (hx : e.find? q = none) (rows : List Row) :
    (e.keep i q rows).cache =
      e.cache.map fun c => { c with entries := c.entries ++ [⟨q.key, rows, i.now⟩] } := by
  cases hc : e.cache with
  | none => simp only [keep, hc, Option.map_none]
  | some c =>
    have hpurge : c.entries.filter (c.isFresh i.now) = c.entries :=
      List.filter_eq_self.mpr fun x hm => decide_eq_true (hf c hc x hm)
    have hwithout : (c.entries.filter fun x => x.key != q.key) = c.entries := by
      refine List.filter_eq_self.mpr fun x hm => ?_
      have hne := List.find?_eq_none.mp hx x (by rw [results, hc]; exact hm)
      exact bne_iff_ne.mpr fun he => hne (beq_iff_eq.mpr he)
    simp only [keep, hc, Option.map_some, Cache.insert, Cache.purge, Cache.without, hpurge,
      hwithout]

theorem held_keep (hf : e.FreshAt i.now) (hx : e.find? q = none) (hc : e.cache.isSome = true)
    (rows : List Row) : (e.keep i q rows).held = e.held ++ [(q.key, rows)] := by
  obtain ⟨c, hc⟩ := Option.isSome_iff_exists.mp hc
  simp only [held, results, cache_keep hf hx, hc, Option.map_some, Option.getD_some,
    List.map_append, List.map_cons, List.map_nil]

theorem refreshed_eq (e : Engine) (r : Registry) :
    e.refreshed r = { e with registry := e.registry.refreshed r } := by
  unfold refreshed replace Registry.refreshed
  cases r.check with
  | error _ => rfl
  | ok _ => rfl

theorem held_refreshed (e : Engine) (r : Registry) : (e.refreshed r).held = e.held := by
  rw [refreshed_eq]
  rfl

theorem cache_refreshed (e : Engine) (r : Registry) : (e.refreshed r).cache = e.cache := by
  rw [refreshed_eq]

end Engine

namespace Turn

variable {b : Backend σ} {t : Turn σ}

theorem isSome_cache_after (hf : t.engine.FreshAt t.invocation.now) :
    (t.after b).cache.isSome = t.engine.cache.isSome := by
  cases t.ended hf b with
  | unanswered _ _ hafter _ => rw [hafter]
  | kept _ _ _ hafter _ => rw [hafter]
  | gained _ hx _ _ hafter _ => rw [hafter, Engine.cache_keep hf hx, Option.isSome_map]
  | failed _ _ _ _ hafter _ => rw [hafter]

/-- A request adds what it gains to what is kept. -/
theorem held_after (hf : t.engine.FreshAt t.invocation.now)
    (hc : t.engine.cache.isSome = true) :
    (t.after b).held = t.engine.held ++ (t.gained b).map fun p => (p.1.key, p.2) := by
  cases t.ended hf b with
  | unanswered _ hcalls hafter _ =>
    rw [hafter, gained_of_calls_eq_nil hcalls, List.map_nil, List.append_nil]
  | kept _ _ hcalls hafter _ =>
    rw [hafter, gained_of_calls_eq_nil hcalls, List.map_nil, List.append_nil]
  | gained hq hx _ hcalls hafter _ =>
    rw [hafter, gained_of_served hq hcalls, Engine.held_keep hf hx hc]
    rfl
  | failed hq _ _ hcalls hafter _ =>
    rw [hafter, gained_of_served hq hcalls]
    exact (List.append_nil _).symm

/-- Rows that a request can have are kept when it is made, if not before. -/
theorem key_mem_held_after (hf : t.engine.FreshAt t.invocation.now)
    (hc : t.engine.cache.isSome = true) {q : Question} (hq : t.question? = some q)
    (hrows : (b.rows t.engine.registry q (t.context q) t.invocation.cancelled
      t.state).1.toOption.isSome = true) : q.key ∈ (t.after b).held.map Prod.fst := by
  rw [held_after hf hc, List.map_append, List.mem_append]
  cases t.ended hf b with
  | unanswered hq' _ _ _ =>
    rw [hq] at hq'
    cases hq'
  | kept hq' hx _ _ _ =>
    cases hq.symm.trans hq'
    exact .inl (List.mem_map_of_mem (f := Prod.fst) (Engine.mem_held_of_find? hx))
  | gained hq' _ _ hcalls _ _ =>
    cases hq.symm.trans hq'
    rw [gained_of_served hq hcalls]
    exact .inr List.mem_cons_self
  | failed hq' _ hfailed _ _ _ =>
    cases hq.symm.trans hq'
    rw [hfailed] at hrows
    cases hrows

/-- No request keeps two results for one question. -/
theorem nodup_held_after (hf : t.engine.FreshAt t.invocation.now)
    (hc : t.engine.cache.isSome = true) (hn : (t.engine.held.map Prod.fst).Nodup) :
    ((t.after b).held.map Prod.fst).Nodup := by
  cases t.ended hf b with
  | unanswered _ _ hafter _ => rwa [hafter]
  | kept _ _ _ hafter _ => rwa [hafter]
  | failed _ _ _ _ hafter _ => rwa [hafter]
  | gained _ hx _ _ hafter _ =>
    rw [hafter, Engine.held_keep hf hx hc, List.map_append, List.nodup_append]
    refine ⟨hn, List.nodup_singleton _, ?_⟩
    rintro key hkey other hother rfl
    rw [List.mem_singleton.mp hother] at hkey
    exact Engine.find?_eq_none_iff.mp hx hkey

theorem lasts_after {steps : List Step}
    (h : t.engine.Lasts (.ask t.invocation t.request :: steps)) : (t.after b).Lasts steps := by
  have hf : t.engine.FreshAt t.invocation.now := h.stored _ List.mem_cons_self
  have hlasts : t.engine.Lasts steps :=
    ⟨fun now hnow => h.stored now (List.mem_cons_of_mem _ hnow),
      fun c hc => (List.pairwise_cons.mp (h.gained c hc)).2⟩
  cases t.ended hf b with
  | unanswered _ _ hafter _ => rwa [hafter]
  | kept _ _ _ hafter _ => rwa [hafter]
  | failed _ _ _ _ hafter _ => rwa [hafter]
  | gained _ hx _ _ hafter _ =>
    rw [hafter]
    constructor
    case stored =>
      intro now hnow c' hc' x hm
      rw [Engine.cache_keep hf hx, Option.mem_def, Option.map_eq_some_iff] at hc'
      obtain ⟨c, hc, rfl⟩ := hc'
      rcases List.mem_append.mp hm with hm | hm
      · exact hlasts.stored now hnow c hc x hm
      · rw [List.mem_singleton.mp hm]
        exact (List.pairwise_cons.mp (h.gained c hc)).1 now hnow
    case gained =>
      intro c' hc'
      rw [Engine.cache_keep hf hx, Option.mem_def, Option.map_eq_some_iff] at hc'
      obtain ⟨c, hc, rfl⟩ := hc'
      exact hlasts.gained c hc

end Turn

namespace Engine

variable {b : Backend σ} {e : Engine} {steps rest : List Step} {s : σ}

theorem Lasts.refreshed {r : Registry} (h : e.Lasts (.replace r :: steps)) :
    (e.refreshed r).Lasts steps := by
  constructor
  case stored =>
    intro now hnow c hc
    rw [cache_refreshed] at hc
    exact h.stored now hnow c hc
  case gained =>
    intro c hc
    rw [cache_refreshed] at hc
    exact h.gained c hc

theorem Lasts.run (h : e.Lasts (steps ++ rest)) : (e.run b steps s).1.Lasts rest := by
  induction steps generalizing e s with
  | nil => exact h
  | cons step steps ih =>
    cases step with
    | ask i request => exact ih (Turn.lasts_after (t := ⟨i, request, e, s⟩) h)
    | replace r => exact ih h.refreshed

theorem isSome_cache_run (h : e.Lasts steps) :
    (e.run b steps s).1.cache.isSome = e.cache.isSome := by
  induction steps generalizing e s with
  | nil => rfl
  | cons step steps ih =>
    cases step with
    | ask i request =>
      exact (ih (Turn.lasts_after (t := ⟨i, request, e, s⟩) h)).trans
        (Turn.isSome_cache_after (t := ⟨i, request, e, s⟩) (h.stored _ List.mem_cons_self))
    | replace r => exact (ih h.refreshed).trans (by rw [cache_refreshed])

/-- After a run all is kept that was kept before or has been gained on the way. -/
theorem held_run (h : e.Lasts steps) (hc : e.cache.isSome = true) : (e.run b steps s).1.held =
    e.held ++ ((e.turns b steps s).flatMap (Turn.gained b)).map fun p => (p.1.key, p.2) := by
  induction steps generalizing e s with
  | nil => exact (List.append_nil _).symm
  | cons step steps ih =>
    cases step with
    | ask i request =>
      have hf : e.FreshAt i.now := h.stored _ List.mem_cons_self
      have hafter := Turn.held_after (b := b) (t := ⟨i, request, e, s⟩) hf hc
      have hrest := ih (s := (e.handle b i request s).2.2)
        (Turn.lasts_after (b := b) (t := ⟨i, request, e, s⟩) h)
        ((Turn.isSome_cache_after (t := ⟨i, request, e, s⟩) hf).trans hc)
      rw [hafter, List.append_assoc, ← List.map_append] at hrest
      exact hrest
    | replace r =>
      rw [← held_refreshed e r]
      exact ih h.refreshed (by rwa [cache_refreshed])

/-- What is kept after a run that starts with nothing has been gained in the run. -/
theorem exists_gained_of_find? (h : e.Lasts steps) (hempty : e.held = []) {q : Question}
    {x : CachedRows} (hx : (e.run b steps s).1.find? q = some x) :
    ∃ t ∈ e.turns b steps s, (q, x.rows) ∈ t.gained b := by
  have hc : e.cache.isSome = true :=
    (isSome_cache_run (b := b) (s := s) h).symm.trans (isSome_cache_of_find? hx)
  have hmem := mem_held_of_find? hx
  rw [held_run h hc, hempty, List.nil_append] at hmem
  obtain ⟨⟨q', rows⟩, hgained, heq⟩ := List.mem_map.mp hmem
  obtain ⟨hkey, hrows⟩ := Prod.mk.inj heq
  obtain rfl : q' = q := Question.key_inj.mp hkey
  obtain rfl : rows = x.rows := hrows
  exact List.mem_flatMap.mp hgained

theorem nodup_held_run (h : e.Lasts steps) (hc : e.cache.isSome = true)
    (hn : (e.held.map Prod.fst).Nodup) : ((e.run b steps s).1.held.map Prod.fst).Nodup := by
  induction steps generalizing e s with
  | nil => exact hn
  | cons step steps ih =>
    cases step with
    | ask i request =>
      have hf : e.FreshAt i.now := h.stored _ List.mem_cons_self
      exact ih (Turn.lasts_after (t := ⟨i, request, e, s⟩) h)
        ((Turn.isSome_cache_after (t := ⟨i, request, e, s⟩) hf).trans hc)
        (Turn.nodup_held_after (t := ⟨i, request, e, s⟩) hf hc hn)
    | replace r => exact ih h.refreshed (by rwa [cache_refreshed]) (by rwa [held_refreshed])

/-- A run changes the registry and what is kept, and nothing else of an engine. -/
theorem run_engine (b : Backend σ) (e : Engine) (steps : List Step) (s : σ) :
    ∃ cache, (e.run b steps s).1 = { e with registry := e.registry.after steps, cache } := by
  induction steps generalizing e s with
  | nil => exact ⟨e.cache, rfl⟩
  | cons step steps ih =>
    cases step with
    | ask i request =>
      obtain ⟨cache, h⟩ := ih (e.handle b i request s).2.1 (e.handle b i request s).2.2
      obtain ⟨other, he⟩ := e.handle_engine b i request s
      exact ⟨cache, by rw [run, h, he]; rfl⟩
    | replace r =>
      obtain ⟨cache, h⟩ := ih (e.refreshed r) s
      exact ⟨cache, by rw [run, h, e.refreshed_eq]; rfl⟩

theorem run_append (b : Backend σ) (e : Engine) (steps rest : List Step) (s : σ) :
    e.run b (steps ++ rest) s = (e.run b steps s).1.run b rest (e.run b steps s).2 := by
  induction steps generalizing e s with
  | nil => rfl
  | cons step steps ih =>
    cases step with
    | ask i request => exact ih _ _
    | replace r => exact ih _ s

/-- A request of a run finds what the steps before it have left. -/
theorem turns_eq_append {earlier later : List (Turn σ)} {t : Turn σ}
    (h : e.turns b steps s = earlier ++ t :: later) :
    ∃ before behind, steps = before ++ .ask t.invocation t.request :: behind ∧
      e.turns b before s = earlier ∧ e.run b before s = (t.engine, t.state) := by
  induction steps generalizing e s earlier with
  | nil => cases earlier <;> cases h
  | cons step steps ih =>
    cases step with
    | ask i request =>
      cases earlier with
      | nil =>
        cases h
        exact ⟨[], steps, rfl, rfl, rfl⟩
      | cons first earlier =>
        obtain ⟨hfirst, hrest⟩ := List.cons.inj h
        obtain ⟨before, behind, rfl, hturns, hrun⟩ := ih hrest
        exact ⟨.ask i request :: before, behind, rfl, by rw [turns, hturns, hfirst], hrun⟩
    | replace r =>
      obtain ⟨before, behind, rfl, hturns, hrun⟩ := ih h
      exact ⟨.replace r :: before, behind, rfl, hturns, hrun⟩

theorem Lasts.of_append (h : e.Lasts (steps ++ rest)) : e.Lasts steps := by
  constructor
  case stored =>
    intro now hnow
    refine h.stored now ?_
    rw [List.filterMap_append]
    exact List.mem_append_left _ hnow
  case gained =>
    intro c hc
    have hpairs := h.gained c hc
    rw [List.filterMap_append] at hpairs
    exact (List.pairwise_append.mp hpairs).1

section Turns

variable {earlier later : List (Turn σ)} {t : Turn σ}

theorem freshAt_of_turns (h : e.Lasts steps) (ht : e.turns b steps s = earlier ++ t :: later) :
    t.engine.FreshAt t.invocation.now := by
  obtain ⟨before, behind, rfl, -, hrun⟩ := turns_eq_append ht
  have hlasts := h.run (b := b) (s := s)
  rw [hrun] at hlasts
  exact hlasts.stored _ List.mem_cons_self

/-- A request of a run finds all that has been gained before it. -/
theorem held_of_turns (h : e.Lasts steps) (hc : e.cache.isSome = true)
    (ht : e.turns b steps s = earlier ++ t :: later) :
    t.engine.held = e.held ++ (earlier.flatMap (Turn.gained b)).map fun p => (p.1.key, p.2) := by
  obtain ⟨before, behind, rfl, hturns, hrun⟩ := turns_eq_append ht
  have hheld := held_run (b := b) (s := s) h.of_append hc
  rwa [hturns, hrun] at hheld

theorem nodup_held_of_turns (h : e.Lasts steps) (hc : e.cache.isSome = true)
    (hn : (e.held.map Prod.fst).Nodup) (ht : e.turns b steps s = earlier ++ t :: later) :
    (t.engine.held.map Prod.fst).Nodup := by
  obtain ⟨before, behind, rfl, -, hrun⟩ := turns_eq_append ht
  have hnodup := nodup_held_run (b := b) (s := s) h.of_append hc hn
  rwa [hrun] at hnodup

end Turns

end Engine

end BankQuery
