import BankQuery.Engine.Backend
import BankQuery.Proofs.Candidate.Serving
import Mathlib.Data.List.Nodup

/-!
# Databases

A database answers by the statement and its parameters alone. `Backend.statements` lists what may be
run for a question, and `Backend.outcome` goes through such a list up to the first run that does not
fail in a way that may pass. One list is a prefix of another exactly if, whatever the database is,
rows from the first are rows from the second.
-/

namespace BankQuery

/-- What a database is given to run. -/
structure Prepared where
  statement : String
  parameters : List Parameter
deriving DecidableEq

def Candidate.prepared (c : Candidate) : Prepared := ⟨c.statement, c.parameters⟩

/-- Statements under both registries come from the same schema and metrics, and leave out the same
bank. -/
structure Registry.Alike (r r' : Registry) : Prop where
  schema : r'.schema = r.schema
  metrics : r'.metrics = r.metrics
  system : r'.systemBank?.map Bank.id = r.systemBank?.map Bank.id

namespace Generation

variable {options : Options} {r : Registry} {q : Question} {context : Context}

theorem plan_again (r : Registry) (q : Question) (context : Context) :
    plan r q context true = plan r q .unavailable false := rfl

/-- A plan fails for the context only where it fails without. -/
theorem plan_eq_error {fault : GenerationFault} (h : plan r q context false = .error fault) :
    plan r q .unavailable false = .error fault := by
  rw [← plan_again r q context]
  unfold plan at h ⊢
  split
  · rename_i hq
    simpa only [hq, if_true] using h
  · rename_i hq
    simp only [hq] at h
    cases hm : r.metric? (q.metric.getD "") with
    | none => simpa [hm] using h
    | some m =>
      simp only [hm] at h ⊢
      unfold source? at h ⊢
      cases hc : contextTable? r context q m with
      | some t =>
        -- a table from the context has the column of segments where one is needed
        obtain ⟨-, -, -, hg⟩ := contextTable?_eq_some hc
        cases hsegment : segmentColumn t q with
        | ok segment => simp [hc, hsegment, Except.map] at h
        | error fault' =>
          obtain ⟨hne, hnone⟩ := segmentColumn_eq_error hsegment
          have hsome := hg.mpr hne
          rw [hnone] at hsome
          cases hsome
      | none =>
        cases hd : defaultTable? r q with
        | none => simpa [hc, hd] using h
        | some t =>
          cases hsegment : segmentColumn t q with
          | ok segment => simp [hc, hd, hsegment, Except.map] at h
          | error fault' => simpa [hc, hd, hsegment, Except.map] using h

theorem plan_alike {r' : Registry} (h : r.Alike r') (q : Question) (c : Context)
    (afterRejection : Bool) : plan r' q c afterRejection = plan r q c afterRejection := by
  have hm (code : String) : r'.metric? code = r.metric? code := by
    rw [Registry.metric?, Registry.metric?, h.metrics]
  have hs (m : Metric) : source? r' c q m afterRejection = source? r c q m afterRejection := by
    rw [source?, source?, contextTable?, contextTable?, defaultTable?, defaultTable?, h.schema]
  unfold plan
  simp only [hm, hs]

theorem Plan.candidate_alike {r' : Registry} (h : r.Alike r') (p : Plan) (options : Options)
    (q : Question) (afterRejection : Bool) :
    p.candidate options r' q afterRejection = p.candidate options r q afterRejection := by
  have hleft : leftOut? r' q = leftOut? r q := by
    rw [leftOut?, leftOut?, h.system]
  rw [Plan.candidate, Plan.candidate, shape, shape, values, values, hleft]

end Generation

namespace Candidate

variable {options : Generation.Options} {r : Registry} {q : Question} {context : Context}

/-- After a rejection there is the candidate that there is without context. -/
theorem generate_again (context : Context) (reason : Rejection) :
    generate options r q context (some reason) =
      (generate options r q .unavailable none).map fun c => { c with attempt := 2 } := by
  rw [Generation.generate_eq, Generation.generate_eq, Option.isSome_some, Option.isSome_none,
    Generation.plan_again]
  cases Generation.plan r q .unavailable false with
  | error fault => rfl
  | ok p => rfl

theorem generate_eq_error {fault : GenerationFault}
    (h : generate options r q context none = .error fault) :
    generate options r q .unavailable none = .error fault := by
  rw [Generation.generate_eq, Option.isSome_none] at h ⊢
  cases hp : Generation.plan r q context false with
  | ok p =>
    rw [hp] at h
    cases h
  | error fault' =>
    rw [hp] at h
    cases h
    rw [Generation.plan_eq_error hp]
    rfl

end Candidate

namespace Backend

variable {σ : Type} {options : Generation.Options} {r : Registry} {q : Question}
  {context context' : Context}

/-- What the candidate that is generated first asks a database for, if it passes the guard. -/
def proposed (options : Generation.Options) (r : Registry) (q : Question) (context : Context) :
    Except Failure Prepared := do
  let c ← (Candidate.generate options r q context none).mapError GenerationFault.failure
  (Guard.check r.schema c).mapError Failure.rejected
  return c.prepared

def admitted (options : Generation.Options) (r : Registry) (q : Question) (context : Context) :
    Except Failure Prepared :=
  match proposed options r q context with
  | .ok p => .ok p
  | .error _ => proposed options r q .unavailable

theorem admitted_unavailable :
    admitted options r q .unavailable = proposed options r q .unavailable := by
  unfold admitted
  cases proposed options r q .unavailable with
  | ok p => rfl
  | error f => rfl

theorem proposed_eq_error {f : Failure} (h : admitted options r q context = .error f) :
    proposed options r q .unavailable = .error f := by
  unfold admitted at h
  cases ht : proposed options r q context with
  | ok p => simp [ht] at h
  | error g => simpa [ht] using h

/-- Where nothing is accepted there is no candidate, or the guard has rejected it. -/
theorem kind_ne_cancelled {f : Failure} (h : admitted options r q context = .error f) :
    f.kind ≠ .cancelled := by
  have ht := proposed_eq_error h
  unfold proposed at ht
  cases hg : Candidate.generate options r q .unavailable none with
  | error fault =>
    rw [hg] at ht
    cases ht
    exact fun h => nomatch h
  | ok c =>
    cases hc : Guard.check r.schema c with
    | error reason =>
      rw [hg] at ht
      simp only [Except.mapError, bind, Except.bind, hc] at ht
      cases ht
      exact fun h => nomatch h
    | ok u =>
      rw [hg] at ht
      simp only [Except.mapError, bind, Except.bind, hc] at ht
      cases ht

theorem accept_standard (execute : Candidate → Bool → σ → Except Failure (List Row) × σ)
    (r : Registry) (q : Question) (context : Context) (s : σ) :
    ∃ result, (standard options execute).accept r q context tries none s = (result, s) ∧
      result.map Candidate.prepared = admitted options r q context := by
  simp only [tries, accept, standard, admitted, proposed, Candidate.generate_again]
  cases hg : Candidate.generate options r q context none with
  | error fault =>
    rw [Candidate.generate_eq_error hg]
    exact ⟨_, rfl, rfl⟩
  | ok c =>
    simp only [Except.mapError, bind, Except.bind]
    cases hc : Guard.check r.schema c with
    | ok u => exact ⟨_, rfl, rfl⟩
    | error reason =>
      cases hg' : Candidate.generate options r q .unavailable none with
      | error fault => exact ⟨_, rfl, rfl⟩
      | ok d =>
        have hattempt : Guard.check r.schema { d with attempt := 2 } = Guard.check r.schema d := rfl
        simp only [Except.map, hattempt]
        cases hd : Guard.check r.schema d with
        | ok u => exact ⟨_, rfl, rfl⟩
        | error reason' => exact ⟨_, rfl, rfl⟩

def ofDatabase (options : Generation.Options) (x : Prepared → Except Failure (List Row)) :
    Backend Unit :=
  standard options fun c _ s => (x c.prepared, s)

theorem attempt_ofDatabase (x : Prepared → Except Failure (List Row)) (cancelled : Bool)
    (s : Unit) : ((ofDatabase options x).attempt r q context cancelled s).1 =
      (admitted options r q context).bind x := by
  obtain ⟨result, hr, hp⟩ :=
    @accept_standard Unit options (fun c _ s => (x c.prepared, s)) r q context s
  unfold attempt ofDatabase
  rw [hr, ← hp]
  cases result with
  | error f => rfl
  | ok c => rfl

/-- What is accepted is run, and after a failure that may pass what is accepted without context. -/
theorem rows_ofDatabase (x : Prepared → Except Failure (List Row)) (cancelled : Bool) (s : Unit) :
    ((ofDatabase options x).rows r q context cancelled s).1 =
      (admitted options r q context).bind fun p =>
        match x p with
        | .ok rows => .ok rows
        | .error f =>
          if f.isRetryable then (proposed options r q .unavailable).bind x else .error f := by
  obtain ⟨result, hr, hp⟩ :=
    @accept_standard Unit options (fun c _ s => (x c.prepared, s)) r q context s
  have ha := @attempt_ofDatabase options r q .unavailable x cancelled
  simp only [admitted_unavailable, ofDatabase] at ha
  unfold rows ofDatabase
  rw [hr, ← hp]
  cases result with
  | error f => rfl
  | ok c =>
    simp only [standard, Except.map, Except.bind]
    cases hx : x c.prepared with
    | ok rows => rfl
    | error f =>
      by_cases hf : f.isRetryable = true
      · simp only [hf, if_true]
        exact ha s
      · simp only [hf]
        rfl

/-- What may be run for a question, each when the run before fails in a way that may pass. -/
def statements (options : Generation.Options) (r : Registry) (q : Question) (context : Context) :
    List Prepared :=
  match admitted options r q context with
  | .error _ => []
  | .ok p => p :: (proposed options r q .unavailable).toOption.toList.filter fun p' => p' ≠ p

theorem statements_congr {r' : Registry} (h : r.Alike r') (q : Question) (context : Context) :
    statements options r' q context = statements options r q context := by
  have hproposed (context : Context) :
      proposed options r' q context = proposed options r q context := by
    simp only [proposed, Generation.generate_eq, Generation.plan_alike h,
      Generation.Plan.candidate_alike h, h.schema]
  simp only [statements, admitted, hproposed]

theorem nodup_statements : (statements options r q context).Nodup := by
  unfold statements
  cases admitted options r q context with
  | error f => exact List.nodup_nil
  | ok p =>
    refine List.nodup_cons.mpr ⟨fun hp => ?_, List.Nodup.filter _ ?_⟩
    · simp at hp
    · cases proposed options r q .unavailable with
      | error f => exact List.nodup_nil
      | ok p' => exact List.nodup_singleton p'

/-- What is accepted is known from what may be run. -/
theorem admitted_eq_iff : statements options r q context = statements options r q context' ↔
    admitted options r q context = admitted options r q context' := by
  refine ⟨fun h => ?_, fun h => by rw [statements, statements, h]⟩
  unfold statements at h
  cases ha : admitted options r q context with
  | error f =>
    cases ha' : admitted options r q context' with
    | error f' => exact (proposed_eq_error ha).symm.trans (proposed_eq_error ha')
    | ok p' => simp [ha, ha'] at h
  | ok p =>
    cases ha' : admitted options r q context' with
    | error f' => simp [ha, ha'] at h
    | ok p' =>
      simp only [ha, ha'] at h
      rw [(List.cons.inj h).1]

theorem statements_eq_of_isPrefix (h : statements options r q context <+:
    statements options r q context') (hne : statements options r q context ≠ []) :
    statements options r q context = statements options r q context' := by
  refine admitted_eq_iff.mpr ?_
  unfold statements at h hne
  cases ha : admitted options r q context with
  | error f => simp [ha] at hne
  | ok p =>
    cases ha' : admitted options r q context' with
    | error f' => simp [ha, ha'] at h
    | ok p' =>
      simp only [ha, ha'] at h
      rw [(List.cons_prefix_cons.mp h).1]

/-- The rows of the first run that does not fail in a way that may pass, if it has rows. -/
def outcome (x : Prepared → Except Failure (List Row)) : List Prepared → Option (List Row)
  | [] => none
  | p :: ps =>
    match x p with
    | .ok rows => some rows
    | .error f => if f.isRetryable then outcome x ps else none

section Outcome

variable {x y : Prepared → Except Failure (List Row)} {p : Prepared} {ps ps' : List Prepared}
  {f : Failure}

theorem outcome_cons_of_ok {rows : List Row} (h : x p = .ok rows) (ps : List Prepared) :
    outcome x (p :: ps) = some rows := by
  simp only [outcome, h]

theorem outcome_cons_of_retryable (h : x p = .error f) (hf : f.isRetryable = true)
    (ps : List Prepared) : outcome x (p :: ps) = outcome x ps := by
  simp only [outcome, h, hf, if_true]

theorem outcome_cons_of_not_retryable (h : x p = .error f) (hf : ¬ f.isRetryable = true)
    (ps : List Prepared) : outcome x (p :: ps) = none := by
  simp only [outcome, h, if_neg hf]

theorem outcome_singleton (x : Prepared → Except Failure (List Row)) (p : Prepared) :
    outcome x [p] = (x p).toOption := by
  cases hx : x p with
  | ok rows => exact outcome_cons_of_ok hx []
  | error f =>
    by_cases hf : f.isRetryable = true
    · exact outcome_cons_of_retryable hx hf []
    · exact outcome_cons_of_not_retryable hx hf []

theorem toOption_rows (x : Prepared → Except Failure (List Row)) (cancelled : Bool) (s : Unit) :
    ((ofDatabase options x).rows r q context cancelled s).1.toOption =
      outcome x (statements options r q context) := by
  rw [rows_ofDatabase, statements]
  cases admitted options r q context with
  | error f => rfl
  | ok p =>
    simp only [Except.bind]
    cases hx : x p with
    | ok rows => exact (outcome_cons_of_ok hx _).symm
    | error f =>
      by_cases hf : f.isRetryable = true
      · simp only [hf, if_true]
        rw [outcome_cons_of_retryable hx hf]
        cases proposed options r q .unavailable with
        | error g => rfl
        | ok p' =>
          simp only [Except.toOption, Option.toList_some, List.filter_singleton]
          by_cases hp : p' = p
          · simp only [hp, ne_eq, not_true_eq_false, decide_false, Bool.cond_false, hx]
            rfl
          · simp only [hp, ne_eq, not_false_eq_true, decide_true, Bool.cond_true]
            exact (outcome_singleton x p').symm
      · rw [outcome_cons_of_not_retryable hx hf]
        simp only [hf]
        rfl

theorem outcome_congr (h : ∀ p ∈ ps, x p = y p) : outcome x ps = outcome y ps := by
  induction ps with
  | nil => rfl
  | cons p ps ih =>
    have hrest := ih fun p' hp => h p' (List.mem_cons_of_mem p hp)
    simp only [outcome, h p List.mem_cons_self, hrest]

theorem outcome_of_isPrefix (h : ps <+: ps') {rows : List Row} (hrows : outcome x ps = some rows) :
    outcome x ps' = some rows := by
  induction ps generalizing ps' with
  | nil => cases hrows
  | cons p ps ih =>
    obtain ⟨rest, rfl⟩ := h
    rw [List.cons_append]
    cases hx : x p with
    | ok found => rwa [outcome_cons_of_ok hx] at hrows ⊢
    | error f =>
      by_cases hf : f.isRetryable = true
      · rw [outcome_cons_of_retryable hx hf] at hrows ⊢
        exact ih (List.prefix_append ps rest) hrows
      · rw [outcome_cons_of_not_retryable hx hf] at hrows
        cases hrows

theorem outcome_of_failing (f : Failure) (ps : List Prepared) :
    outcome (fun _ => .error f) ps = none := by
  induction ps with
  | nil => rfl
  | cons p ps ih =>
    by_cases hf : f.isRetryable = true
    · rw [outcome_cons_of_retryable rfl hf, ih]
    · rw [outcome_cons_of_not_retryable rfl hf]

/-- Where rows always come with rows the first list is a prefix of the second: a database that fails
for good on all but one statement tells whether it is the next in both. -/
theorem isPrefix_of_outcome (hps : ps.Nodup) (hps' : ps'.Nodup)
    (h : ∀ x, (outcome x ps).isSome = true → (outcome x ps').isSome = true) : ps <+: ps' := by
  induction ps generalizing ps' with
  | nil => exact List.nil_prefix
  | cons p ps ih =>
    obtain ⟨hp, hn⟩ := List.nodup_cons.mp hps
    have hfirst := h (fun p' => if p' = p then .ok [] else .error .cancelled)
      (by rw [outcome_cons_of_ok (if_pos rfl)]; rfl)
    cases ps' with
    | nil => cases hfirst
    | cons p' ps' =>
      obtain ⟨hp', hn'⟩ := List.nodup_cons.mp hps'
      by_cases heq : p' = p
      · subst heq
        refine List.cons_prefix_cons.mpr ⟨rfl, ih hn hn' fun x hx => ?_⟩
        -- the first statement is left aside by a failure that may pass
        let passing : Prepared → Except Failure (List Row) :=
          fun p => if p = p' then .error (.database "") else x p
        have hpassing {l : List Prepared} (hl : p' ∉ l) :
            outcome passing (p' :: l) = outcome x l := by
          rw [outcome_cons_of_retryable (if_pos rfl) rfl]
          exact outcome_congr fun p hp => if_neg fun (he : p = p') => hl (he ▸ hp)
        have hrest := h passing
        rw [hpassing hp, hpassing hp'] at hrest
        exact hrest hx
      · rw [outcome_cons_of_not_retryable (if_neg heq) (by decide)] at hfirst
        cases hfirst

end Outcome

end Backend

end BankQuery
