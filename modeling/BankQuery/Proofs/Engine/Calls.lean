import BankQuery.Engine.Basic
import BankQuery.Proofs.Question.Conversation

/-!
# Calls of one request

`Asked` and `Served` say which sequences of calls a backend can be asked for: the first for one
candidate, the second for the rows of a question. The statements below show that a recorded backend
makes such a sequence and otherwise behaves as the backend that it records, and read off from the
sequences how often candidates are asked for and run, what is run, and when it is run again.
-/

namespace BankQuery

variable {σ : Type}

namespace Call

def isGeneration : Call → Bool
  | .generate _ _ => true
  | .execute _ _ => false

def isExecution : Call → Bool
  | .generate _ _ => false
  | .execute _ _ => true

end Call

/-- The calls by which a candidate is asked for at most `tries` times, the last rejection being
known, and the candidate that passed the guard, if one did. -/
inductive Asked (schema : Schema) :
    Nat → Option Rejection → List Call → Option Candidate → Prop where
  | spent (last : Option Rejection) : Asked schema 0 last [] none
  | failed (tries : Nat) (last : Option Rejection) (f : Failure) :
      Asked schema (tries + 1) last [.generate last (.error f)] none
  | passed (tries : Nat) (last : Option Rejection) {c : Candidate}
      (hc : Guard.check schema c = .ok ()) :
      Asked schema (tries + 1) last [.generate last (.ok c)] (some c)
  | refused {tries : Nat} (last : Option Rejection) {c : Candidate} {reason : Rejection}
      {calls : List Call} {result : Option Candidate} (hc : Guard.check schema c = .error reason)
      (hrest : Asked schema tries (some reason) calls result) :
      Asked schema (tries + 1) last (.generate last (.ok c) :: calls) result

/-- The calls by which the rows of a question are asked for. -/
inductive Served (schema : Schema) : List Call → Except Failure (List Row) → Prop where
  | unasked {calls : List Call} (f : Failure) (ha : Asked schema Backend.tries none calls none) :
      Served schema calls (.error f)
  | answered {calls : List Call} {c : Candidate} (rows : List Row)
      (ha : Asked schema Backend.tries none calls (some c)) :
      Served schema (calls ++ [.execute c (.ok rows)]) (.ok rows)
  | broken {calls : List Call} {c : Candidate} {f : Failure}
      (ha : Asked schema Backend.tries none calls (some c)) (hf : f.isRetryable = false) :
      Served schema (calls ++ [.execute c (.error f)]) (.error f)
  | abandoned {calls again : List Call} {c : Candidate} {f : Failure} (g : Failure)
      (ha : Asked schema Backend.tries none calls (some c)) (hf : f.isRetryable = true)
      (hb : Asked schema Backend.tries none again none) :
      Served schema (calls ++ .execute c (.error f) :: again) (.error g)
  | retried {calls again : List Call} {c d : Candidate} {f : Failure}
      (result : Except Failure (List Row))
      (ha : Asked schema Backend.tries none calls (some c)) (hf : f.isRetryable = true)
      (hb : Asked schema Backend.tries none again (some d)) :
      Served schema (calls ++ .execute c (.error f) :: (again ++ [.execute d result])) result

namespace Backend

theorem accept_recorded (b : Backend σ) (r : Registry) (q : Question) (context : Context)
    (tries : Nat) (last : Option Rejection) (s : σ) (calls : List Call) :
    ∃ made, Asked r.schema tries last made (b.accept r q context tries last s).1.toOption ∧
      b.recorded.accept r q context tries last (s, calls) =
        ((b.accept r q context tries last s).1, (b.accept r q context tries last s).2,
          made.reverse ++ calls) := by
  induction tries generalizing last s calls with
  | zero => exact ⟨[], .spent last, rfl⟩
  | succ tries ih =>
    cases hg : b.generate r q context last s with
    | mk result s' =>
      cases result with
      | error f =>
        refine ⟨[.generate last (.error f)], ?_, ?_⟩
        · simp only [accept, hg]
          exact .failed tries last f
        · simp [accept, recorded, hg]
      | ok c =>
        cases hc : Guard.check r.schema c with
        | ok u =>
          refine ⟨[.generate last (.ok c)], ?_, ?_⟩
          · simp only [accept, hg, hc]
            exact .passed tries last hc
          · simp [accept, recorded, hg, hc]
        | error reason =>
          obtain ⟨made, ha, hm⟩ := ih (some reason) s' (.generate last (.ok c) :: calls)
          refine ⟨.generate last (.ok c) :: made, ?_, ?_⟩
          · simp only [accept, hg, hc]
            exact .refused last hc ha
          · simp only [accept, recorded, hg, hc] at hm ⊢
            simp [hm]

theorem execute_recorded (b : Backend σ) (c : Candidate) (cancelled : Bool) (s : σ)
    (calls : List Call) :
    b.recorded.execute c cancelled (s, calls) =
      ((b.execute c cancelled s).1, (b.execute c cancelled s).2,
        .execute c (b.execute c cancelled s).1 :: calls) := rfl

/-- A second attempt asks for a candidate and runs it at once. -/
theorem attempt_recorded (b : Backend σ) (r : Registry) (q : Question) (context : Context)
    (cancelled : Bool) (s : σ) (calls : List Call) :
    ∃ made, (Asked r.schema tries none made none ∧
        (∃ g, (b.attempt r q context cancelled s).1 = .error g) ∨
      ∃ asked d, Asked r.schema tries none asked (some d) ∧
        made = asked ++ [.execute d (b.attempt r q context cancelled s).1]) ∧
      b.recorded.attempt r q context cancelled (s, calls) =
        ((b.attempt r q context cancelled s).1, (b.attempt r q context cancelled s).2,
          made.reverse ++ calls) := by
  obtain ⟨asked, ha, hm⟩ := b.accept_recorded r q context tries none s calls
  cases hc : b.accept r q context tries none s with
  | mk found s' =>
    rw [hc] at ha hm
    cases found with
    | error g => exact ⟨asked, .inl ⟨ha, g, by simp only [attempt, hc]⟩, by simp only [attempt, hm, hc]⟩
    | ok d =>
      refine ⟨asked ++ [.execute d (b.execute d cancelled s').1], .inr ⟨asked, d, ha, ?_⟩, ?_⟩
      · simp only [attempt, hc]
      · simp [attempt, hm, hc, execute_recorded]

theorem rows_recorded (b : Backend σ) (r : Registry) (q : Question) (context : Context)
    (cancelled : Bool) (s : σ) (calls : List Call) :
    ∃ made, Served r.schema made (b.rows r q context cancelled s).1 ∧
      b.recorded.rows r q context cancelled (s, calls) =
        ((b.rows r q context cancelled s).1, (b.rows r q context cancelled s).2,
          made.reverse ++ calls) := by
  obtain ⟨asked, ha, hm⟩ := b.accept_recorded r q context tries none s calls
  cases hc : b.accept r q context tries none s with
  | mk found s' =>
    rw [hc] at ha hm
    cases found with
    | error f =>
      refine ⟨asked, ?_, by simp only [rows, hm, hc]⟩
      simp only [rows, hc]
      exact .unasked f ha
    | ok c =>
      cases he : b.execute c cancelled s' with
      | mk result s₁ =>
        cases result with
        | ok rows =>
          refine ⟨asked ++ [.execute c (.ok rows)], ?_, ?_⟩
          · simp only [Backend.rows, hc, he]
            exact .answered rows ha
          · simp [Backend.rows, hm, hc, he, execute_recorded]
        | error f =>
          by_cases hf : f.isRetryable = true
          · obtain ⟨again, hb, hn⟩ := b.attempt_recorded r q Context.unavailable cancelled s₁
              (.execute c (.error f) :: (asked.reverse ++ calls))
            refine ⟨asked ++ .execute c (.error f) :: again, ?_, ?_⟩
            · simp only [rows, hc, he, if_pos hf]
              rcases hb with ⟨hb, g, hg⟩ | ⟨later, d, hb, rfl⟩
              · rw [hg]
                exact .abandoned g ha hf hb
              · exact .retried _ ha hf hb
            · simp [rows, hm, hc, he, hf, execute_recorded, hn]
          · refine ⟨asked ++ [.execute c (.error f)], ?_, ?_⟩
            · simp only [rows, hc, he, if_neg hf]
              exact .broken ha (by simpa using hf)
            · simp [rows, hm, hc, he, hf, execute_recorded]

end Backend

namespace Asked

variable {schema : Schema} {tries : Nat} {last : Option Rejection} {calls : List Call}
  {result : Option Candidate}

theorem isGeneration (h : Asked schema tries last calls result) :
    ∀ x ∈ calls, x.isGeneration = true := by
  induction h with
  | spent _ => simp
  | failed _ _ _ => simp [Call.isGeneration]
  | passed _ _ _ => simp [Call.isGeneration]
  | refused _ _ _ ih => simpa [Call.isGeneration] using ih

theorem not_isExecution (h : Asked schema tries last calls result) :
    ∀ x ∈ calls, x.isExecution = false := by
  intro x hx
  have hg := h.isGeneration x hx
  cases x with
  | generate _ _ => rfl
  | execute _ _ => simp [Call.isGeneration] at hg

theorem length_le (h : Asked schema tries last calls result) : calls.length ≤ tries := by
  induction h with
  | spent _ => simp
  | failed _ _ _ => simp
  | passed _ _ _ => simp
  | refused _ _ _ ih => simpa using ih

theorem countP_isGeneration_le (h : Asked schema tries last calls result) :
    calls.countP Call.isGeneration ≤ tries :=
  Nat.le_trans List.countP_le_length h.length_le

theorem countP_isExecution (h : Asked schema tries last calls result) :
    calls.countP Call.isExecution = 0 := by
  rw [List.countP_eq_zero]
  intro x hx
  simp [h.not_isExecution x hx]

theorem any_isExecution (h : Asked schema tries last calls result) :
    calls.any Call.isExecution = false := by
  simpa using h.not_isExecution

theorem execute_notMem (h : Asked schema tries last calls result) (c : Candidate)
    (rows : Except Failure (List Row)) : Call.execute c rows ∉ calls := fun hm => by
  simpa [Call.isGeneration] using h.isGeneration _ hm

theorem check_eq_ok {c : Candidate} (h : Asked schema tries last calls (some c)) :
    Guard.check schema c = .ok () := by
  generalize hr : some c = found at h
  induction h with
  | spent _ => cases hr
  | failed _ _ _ => cases hr
  | passed _ _ hc =>
    cases hr
    exact hc
  | refused _ _ _ ih => exact ih hr

/-- A candidate that passes is the last one asked for. -/
theorem getLast?_eq {c : Candidate} (h : Asked schema tries last calls (some c)) :
    ∃ reason, calls.getLast? = some (.generate reason (.ok c)) := by
  generalize hr : some c = found at h
  induction h with
  | spent _ => cases hr
  | failed _ _ _ => cases hr
  | passed _ last _ =>
    cases hr
    exact ⟨last, rfl⟩
  | refused _ _ _ ih =>
    obtain ⟨reason, hl⟩ := ih hr
    exact ⟨reason, by simp [List.getLast?_cons, hl]⟩

/-- Nothing fails on the way to a candidate that passes. -/
theorem generate_error_notMem {c : Candidate} (h : Asked schema tries last calls (some c))
    (reason : Option Rejection) (f : Failure) : Call.generate reason (.error f) ∉ calls := by
  generalize hr : some c = found at h
  induction h with
  | spent _ => cases hr
  | failed _ _ _ => cases hr
  | passed _ _ _ => simp
  | refused _ _ _ ih => simpa using ih hr

/-- No other candidate has passed. -/
theorem eq_of_check {c d : Candidate} {reason : Option Rejection}
    (h : Asked schema tries last calls (some c)) (hm : Call.generate reason (.ok d) ∈ calls)
    (hd : Guard.check schema d = .ok ()) : d = c := by
  generalize hr : some c = found at h
  induction h with
  | spent _ => cases hr
  | failed _ _ _ => cases hr
  | passed _ _ _ =>
    cases hr
    cases List.mem_singleton.mp hm
    rfl
  | refused _ hc _ ih =>
    rcases List.mem_cons.mp hm with he | hm
    · cases he
      cases hc.symm.trans hd
    · exact ih hm hr

/-- Without a result no candidate has passed. -/
theorem check_ne_ok (h : Asked schema tries last calls none) {reason : Option Rejection}
    {c : Candidate} (hm : Call.generate reason (.ok c) ∈ calls) :
    Guard.check schema c ≠ .ok () := by
  generalize hr : (none : Option Candidate) = found at h
  induction h with
  | spent _ => simp at hm
  | failed _ _ _ => simp at hm
  | passed _ _ _ => cases hr
  | refused _ hc _ ih =>
    rcases List.mem_cons.mp hm with he | hm
    · cases he
      simp [hc]
    · exact ih hm hr

theorem exists_head (h : Asked schema (tries + 1) last calls result) :
    ∃ made rest, calls = .generate last made :: rest := by
  cases h with
  | failed _ _ _ | passed _ _ _ | refused _ _ _ => exact ⟨_, _, rfl⟩

end Asked

/-- A run took too long, or it failed, or the database did. -/
inductive Failure.MayPass : Failure → Prop
  | timedOut (milliseconds : UInt64) : MayPass (.timedOut milliseconds)
  | execution (detail : String) : MayPass (.execution detail)
  | database (detail : String) : MayPass (.database detail)

theorem Failure.isRetryable_iff (f : Failure) : f.isRetryable = true ↔ f.MayPass := by
  constructor
  · intro h
    cases f with
    | timedOut milliseconds => exact .timedOut milliseconds
    | execution detail => exact .execution detail
    | database detail => exact .database detail
    | _ => cases h
  · intro h
    cases h with
    | timedOut _ | execution _ | database _ => rfl

/-- If the first candidate is refused, the next call asks for another one and tells why. -/
def AsksAgain (schema : Schema) (calls : List Call) : Prop :=
  ∀ c e rest, calls = .generate none (.ok c) :: rest → Guard.check schema c = .error e →
    ∃ made later, rest = .generate (some e) made :: later

theorem Asked.asksAgain {schema : Schema} {calls : List Call} {found : Option Candidate}
    (h : Asked schema Backend.tries none calls found) (behind : List Call) :
    AsksAgain schema (calls ++ behind) := by
  intro c e rest hcalls hc
  cases h with
  | failed _ _ f => cases hcalls
  | passed _ _ hd =>
    cases hcalls
    cases hd.symm.trans hc
  | refused _ hd hrest =>
    cases hcalls
    cases hd.symm.trans hc
    obtain ⟨made, later, rfl⟩ := hrest.exists_head
    exact ⟨made, later ++ behind, rfl⟩

/-- What the calls of a request keep to. How often is the backend asked? Only what passed the guard
is run, and it is run. A refused candidate and a failure that may pass lead to another one, and a
second run follows exactly such a failure and a new candidate that passed. Nothing is run when no
candidate was had. -/
structure Orderly (schema : Schema) (calls : List Call) : Prop where
  executions : calls.countP Call.isExecution ≤ 2
  generations : calls.countP Call.isGeneration ≤ 4
  guarded : ∀ c result, .execute c result ∈ calls → Guard.check schema c = .ok ()
  run : ∀ reason c, .generate reason (.ok c) ∈ calls.takeWhile Call.isGeneration →
    Guard.check schema c = .ok () →
    ∃ result later, calls.dropWhile Call.isGeneration = .execute c result :: later
  asksAgain : AsksAgain schema calls
  regenerated : ∀ c f later, calls.dropWhile Call.isGeneration = .execute c (.error f) :: later →
    f.MayPass → (∃ made rest, later = .generate none made :: rest) ∧ AsksAgain schema later
  rerun : ∀ c result later, calls.dropWhile Call.isGeneration = .execute c result :: later →
    (later.any Call.isExecution = true ↔ (∃ f, result = .error f ∧ f.MayPass) ∧
      ∃ reason d, .generate reason (.ok d) ∈ later ∧ Guard.check schema d = .ok ())
  ungenerable : ∀ reason f, .generate reason (.error f) ∈ calls.takeWhile Call.isGeneration →
    calls.any Call.isExecution = false
  refusedTwice : ∀ r₁ r₂ c₁ c₂ e₁ e₂,
    [.generate r₁ (.ok c₁), .generate r₂ (.ok c₂)] <:+: calls.takeWhile Call.isGeneration →
    Guard.check schema c₁ = .error e₁ → Guard.check schema c₂ = .error e₂ →
    calls.any Call.isExecution = false

namespace Asked

variable {schema : Schema} {tries : Nat} {last : Option Rejection} {calls : List Call}
  {found : Option Candidate}

theorem takeWhile_append (h : Asked schema tries last calls found) (c : Candidate)
    (result : Except Failure (List Row)) (later : List Call) :
    (calls ++ .execute c result :: later).takeWhile Call.isGeneration = calls := by
  rw [List.takeWhile_append_of_pos h.isGeneration]
  simp [Call.isGeneration]

theorem dropWhile_append (h : Asked schema tries last calls found) (c : Candidate)
    (result : Except Failure (List Row)) (later : List Call) :
    (calls ++ .execute c result :: later).dropWhile Call.isGeneration =
      .execute c result :: later := by
  rw [List.dropWhile_append_of_pos h.isGeneration]
  simp [Call.isGeneration]

theorem dropWhile_ne (h : Asked schema tries last calls found) (c : Candidate)
    (result : Except Failure (List Row)) (later : List Call) :
    calls.dropWhile Call.isGeneration ≠ .execute c result :: later := by
  intro hd
  refine h.execute_notMem c result ((List.dropWhile_sublist Call.isGeneration).subset ?_)
  rw [hd]
  exact List.mem_cons_self

/-- Two candidates asked for in two tries are all there are, and the second one passed. -/
theorem not_refusedTwice {c c₁ c₂ : Candidate} {r₁ r₂ : Option Rejection} {e : Rejection}
    (h : Asked schema Backend.tries none calls (some c))
    (hi : [.generate r₁ (.ok c₁), .generate r₂ (.ok c₂)] <:+: calls) :
    Guard.check schema c₂ ≠ .error e := by
  have hl : calls.length ≤ 2 := h.length_le
  have heq := hi.eq_of_length_le hl
  obtain ⟨reason, hlast⟩ := h.getLast?_eq
  rw [← heq] at hlast
  simp only [List.getLast?_cons_cons, List.getLast?_singleton, Option.some.injEq,
    Call.generate.injEq, Except.ok.injEq] at hlast
  rw [hlast.2, h.check_eq_ok]
  simp

end Asked

namespace Orderly

variable {schema : Schema} {calls : List Call}

theorem nil : Orderly schema [] where
  executions := by simp
  generations := by simp
  guarded := by simp
  run := by simp
  asksAgain _ _ _ h := by cases h
  regenerated := by simp
  rerun := by simp
  ungenerable := by simp
  refusedTwice := by simp

/-- Without a candidate nothing is run. -/
theorem of_asked (h : Asked schema Backend.tries none calls none) : Orderly schema calls where
  executions := by simp [h.countP_isExecution]
  generations := Nat.le_trans h.countP_isGeneration_le (by decide)
  guarded c result hm := absurd hm (h.execute_notMem c result)
  run _ _ hm hc := absurd hc (h.check_ne_ok ((List.takeWhile_sublist _).subset hm))
  asksAgain := by simpa using h.asksAgain []
  regenerated c f later hd := absurd hd (h.dropWhile_ne c (.error f) later)
  rerun c result later hd := absurd hd (h.dropWhile_ne c result later)
  ungenerable _ _ _ := h.any_isExecution
  refusedTwice _ _ _ _ _ _ _ _ _ := h.any_isExecution

/-- With a candidate that passed, all depends on the calls behind its run. -/
theorem of_run {c : Candidate} {result : Except Failure (List Row)} {later : List Call}
    (h : Asked schema Backend.tries none calls (some c))
    (hx : later.countP Call.isExecution ≤ 1) (hg : later.countP Call.isGeneration ≤ 2)
    (hc : ∀ d rows, .execute d rows ∈ later → Guard.check schema d = .ok ())
    (ha : ∀ f, result = .error f → f.MayPass →
      (∃ made rest, later = .generate none made :: rest) ∧ AsksAgain schema later)
    (hr : later.any Call.isExecution = true ↔ (∃ f, result = .error f ∧ f.MayPass) ∧
      ∃ reason d, .generate reason (.ok d) ∈ later ∧ Guard.check schema d = .ok ()) :
    Orderly schema (calls ++ .execute c result :: later) where
  executions := by
    rw [List.countP_append, h.countP_isExecution]
    simp only [List.countP_cons, Call.isExecution, reduceIte]
    omega
  generations := by
    have hle : calls.countP Call.isGeneration ≤ 2 := h.countP_isGeneration_le
    rw [List.countP_append]
    simp only [List.countP_cons, Call.isGeneration, Bool.false_eq_true, reduceIte]
    omega
  guarded d rows hm := by
    rcases List.mem_append.mp hm with hm | hm
    · exact absurd hm (h.execute_notMem d rows)
    · rcases List.mem_cons.mp hm with he | hm
      · cases he
        exact h.check_eq_ok
      · exact hc d rows hm
  run reason d hm hd := by
    rw [h.takeWhile_append] at hm
    rw [h.dropWhile_append, h.eq_of_check hm hd]
    exact ⟨result, later, rfl⟩
  asksAgain := h.asksAgain _
  regenerated d f rest hd hf := by
    rw [h.dropWhile_append] at hd
    cases hd
    exact ha f rfl hf
  rerun d rows rest hd := by
    rw [h.dropWhile_append] at hd
    cases hd
    exact hr
  ungenerable reason f hm := by
    rw [h.takeWhile_append] at hm
    exact absurd hm (h.generate_error_notMem reason f)
  refusedTwice _ _ _ _ _ _ hi _ he := by
    rw [h.takeWhile_append] at hi
    exact absurd he (h.not_refusedTwice hi)

theorem of_served {result : Except Failure (List Row)} (h : Served schema calls result) :
    Orderly schema calls := by
  cases h with
  | unasked _ ha => exact of_asked ha
  | answered rows ha => exact of_run ha (by simp) (by simp) (by simp) nofun (by simp)
  | @broken asked c f ha hf =>
    refine of_run ha (by simp) (by simp) (by simp) (fun g hg hpass => ?_) (by simp)
    cases hg
    rw [f.isRetryable_iff.mpr hpass] at hf
    cases hf
  | @abandoned asked again c f _ ha hf hb =>
    refine of_run ha (by simp [hb.countP_isExecution]) hb.countP_isGeneration_le
      (fun d rows hm => absurd hm (hb.execute_notMem d rows))
      (fun _ _ _ => ⟨hb.exists_head, by simpa using hb.asksAgain []⟩) ?_
    rw [hb.any_isExecution]
    refine ⟨fun hfalse => absurd hfalse (by simp), ?_⟩
    rintro ⟨-, reason, d, hm, hd⟩
    exact absurd hd (hb.check_ne_ok hm)
  | @retried asked again c d f _ ha hf hb =>
    obtain ⟨reason, hlast⟩ := hb.getLast?_eq
    have hm : Call.generate reason (.ok d) ∈ again := List.mem_of_getLast? hlast
    have hg : again.countP Call.isGeneration ≤ 2 := hb.countP_isGeneration_le
    refine of_run ha ?_ ?_ ?_ (fun _ _ _ => ⟨?_, hb.asksAgain _⟩) ?_
    · simp [hb.countP_isExecution, Call.isExecution]
    · simpa [Call.isGeneration] using hg
    · intro d' rows hm'
      rcases List.mem_append.mp hm' with hm' | hm'
      · exact absurd hm' (hb.execute_notMem d' rows)
      · obtain ⟨rfl, -⟩ := by simpa using hm'
        exact hb.check_eq_ok
    · obtain ⟨made, rest, rfl⟩ := hb.exists_head
      exact ⟨made, rest ++ [.execute d result], rfl⟩
    · refine ⟨fun _ => ⟨⟨f, rfl, f.isRetryable_iff.mp hf⟩, reason, d, ?_, hb.check_eq_ok⟩, ?_⟩
      · exact List.mem_append_left _ hm
      · simp [Call.isExecution]

end Orderly

/-- Rows that are had are those of the last call. -/
theorem Served.getLast?_eq {schema : Schema} {calls : List Call} {rows : List Row}
    (h : Served schema calls (.ok rows)) :
    ∃ c, calls.getLast? = some (.execute c (.ok rows)) := by
  cases h with
  | @answered asked c _ _ => exact ⟨c, by simp⟩
  | @retried asked again _ d _ _ _ _ _ =>
    exact ⟨d, by rw [← List.cons_append, ← List.append_assoc, List.getLast?_concat]⟩

theorem Served.exists_head {schema : Schema} {calls : List Call}
    {result : Except Failure (List Row)} (h : Served schema calls result) :
    ∃ made rest, calls = .generate none made :: rest := by
  cases h with
  | unasked _ ha => exact ha.exists_head
  | answered _ ha | broken ha _ | abandoned _ ha _ _ | retried _ ha _ _ =>
    obtain ⟨made, rest, rfl⟩ := ha.exists_head
    exact ⟨made, rest ++ _, rfl⟩

namespace Engine

/-- The calls for a question: none where its rows are kept, and else a candidate is asked for. -/
structure Begins (e : Engine) (i : Invocation) (q : Question) (calls : List Call) : Prop where
  kept : ∀ rows, (e.kept i q).1 = some rows → calls = []
  asked : (e.kept i q).1 = none → ∃ made rest, calls = .generate none made :: rest

def calls (b : Backend σ) (e : Engine) (i : Invocation) (request : Request) (s : σ) : List Call :=
  (e.handle b.recorded i request (s, [])).2.2.2.reverse

def results (e : Engine) : List CachedRows := (e.cache.map Cache.entries).getD []

theorem registry_kept (e : Engine) (i : Invocation) (q : Question) :
    (e.kept i q).2.registry = e.registry := by
  unfold kept
  split <;> rfl

theorem mem_results_of_kept {e : Engine} {i : Invocation} {q : Question} {x : CachedRows}
    (hx : x ∈ (e.kept i q).2.results) : x ∈ e.results := by
  cases hc : e.cache with
  | none => simpa only [kept, hc] using hx
  | some c =>
    simp only [kept, hc, results, Option.map_some, Option.getD_some] at hx ⊢
    exact Cache.mem_of_mem_get hx

theorem mem_results_keep {e : Engine} {i : Invocation} {q : Question} {rows : List Row}
    {x : CachedRows} (hx : x ∈ (e.keep i q rows).results) :
    x ∈ e.results ∨ x.rows = rows := by
  cases hc : e.cache with
  | none => simp [keep, hc, results] at hx
  | some c =>
    simp only [keep, hc, results, Option.map_some, Option.getD_some] at hx ⊢
    rcases Cache.mem_insert.mp hx with ⟨⟨hx, -⟩, -⟩ | rfl
    · exact .inl hx
    · exact .inr rfl

theorem rows_recorded (b : Backend σ) (e : Engine) (i : Invocation) (q : Question)
    (context : Context) (s : σ) (calls : List Call) :
    ∃ made, Orderly e.registry.schema made ∧ e.Begins i q made ∧
      e.rows b.recorded i q context (s, calls) =
        ((e.rows b i q context s).1, (e.rows b i q context s).2.1,
          (e.rows b i q context s).2.2, made.reverse ++ calls) ∧
      ∀ x ∈ (e.rows b i q context s).2.1.results,
        x ∈ e.results ∨ ∃ c, made.getLast? = some (.execute c (.ok x.rows)) := by
  have hr := e.registry_kept i q
  have hx (x : CachedRows) : x ∈ (e.kept i q).2.results → x ∈ e.results := mem_results_of_kept
  cases hk : e.kept i q with
  | mk found e' =>
    rw [hk] at hr hx
    cases found with
    | some rows =>
      have hbegins : e.Begins i q [] := by
        refine ⟨fun _ _ => rfl, fun hn => ?_⟩
        rw [hk] at hn
        cases hn
      refine ⟨[], .nil, hbegins, by simp [Engine.rows, hk], fun x hm => .inl (hx x ?_)⟩
      simpa only [Engine.rows, hk] using hm
    | none =>
      obtain ⟨made, hs, hm⟩ := b.rows_recorded e'.registry q context i.cancelled s calls
      have ho : Orderly e.registry.schema made := by
        rw [← hr]
        exact .of_served hs
      have hbegins : e.Begins i q made := by
        refine ⟨fun rows hn => ?_, fun _ => hs.exists_head⟩
        rw [hk] at hn
        cases hn
      cases hb : b.rows e'.registry q context i.cancelled s with
      | mk result s' =>
        rw [hb] at hs hm
        cases result with
        | ok rows =>
          refine ⟨made, ho, hbegins, by simp only [Engine.rows, hk, hm, hb], fun x hm' => ?_⟩
          simp only [Engine.rows, hk, hb] at hm'
          rcases mem_results_keep hm' with hm' | rfl
          · exact .inl (hx x hm')
          · exact .inr hs.getLast?_eq
        | error f =>
          refine ⟨made, ho, hbegins, by simp only [Engine.rows, hk, hm, hb],
            fun x hm' => .inl (hx x ?_)⟩
          simpa only [Engine.rows, hk, hb] using hm'

theorem resolve_recorded (b : Backend σ) (e : Engine) (i : Invocation) (text : String)
    (q : Question) (s : σ) (calls : List Call) :
    ∃ made, Orderly e.registry.schema made ∧ e.Begins i q made ∧
      e.resolve b.recorded i text q (s, calls) =
        ((e.resolve b i text q s).1, (e.resolve b i text q s).2.1,
          (e.resolve b i text q s).2.2, made.reverse ++ calls) ∧
      ∀ x ∈ (e.resolve b i text q s).2.1.results,
        x ∈ e.results ∨ ∃ c, made.getLast? = some (.execute c (.ok x.rows)) := by
  obtain ⟨made, ho, hbegins, hm, hx⟩ :=
    e.rows_recorded b i q (e.retriever.retrieve q text) s calls
  refine ⟨made, ho, hbegins, ?_⟩
  cases hr : e.rows b i q (e.retriever.retrieve q text) s with
  | mk result rest =>
    rw [hr] at hm hx
    cases result with
    | ok rows => simpa only [resolve, hm, hr, true_and] using hx
    | error f => simpa only [resolve, hm, hr, true_and] using hx

/-- A request makes orderly calls, and none unless it is understood as a question of which no rows
are kept; then a candidate is asked for. The record of the calls changes nothing else, and what is
newly kept are the rows of a run that ended them. -/
theorem calls_orderly (b : Backend σ) (e : Engine) (i : Invocation) (request : Request) (s : σ) :
    e.handle b.recorded i request (s, []) =
        ((e.handle b i request s).1, (e.handle b i request s).2.1,
          (e.handle b i request s).2.2, (e.calls b i request s).reverse) ∧
      Orderly e.registry.schema (e.calls b i request s) ∧
      ((∀ q confidence, understand e.registry i request ≠ .ok (.resolved q confidence)) →
        e.calls b i request s = []) ∧
      (∀ q confidence, understand e.registry i request = .ok (.resolved q confidence) →
        e.Begins i q (e.calls b i request s)) ∧
      ∀ x ∈ (e.handle b i request s).2.1.results, x ∈ e.results ∨
        ∃ c, (e.calls b i request s).getLast? = some (.execute c (.ok x.rows)) := by
  cases hu : understand e.registry i request with
  | error f => simp [calls, handle, hu, Orderly.nil]
  | ok outcome =>
    cases outcome with
    | clarification reason options => simp [calls, handle, hu, Orderly.nil]
    | resolved q confidence =>
      obtain ⟨made, ho, hbegins, hm, hx⟩ := e.resolve_recorded b i request.text q s []
      have hc : e.calls b i request s = made := by simp [calls, handle, hu, hm]
      rw [hc]
      refine ⟨by simp [handle, hu, hm], ho, fun h => absurd rfl (h q confidence),
        fun q' confidence' h => ?_, ?_⟩
      · cases h
        exact hbegins
      · simpa only [handle, hu] using hx

def scripted (_ : Candidate) (_ : Bool) :
    List (Except Failure (List Row)) → Except Failure (List Row) × List (Except Failure (List Row))
  | [] => (.ok [], [])
  | outcome :: script => (outcome, script)

def keepingEngine : Engine where
  registry := Question.twoBanksServed
  retriever := ⟨fun _ => none, fun _ _ _ _ => .ok [], 0, 0⟩
  cache := some { lifetime := 60 }

/-- A run that takes too long is followed by a second one, whose rows are kept. -/
theorem calls_orderly_timedOut :
    let b := Backend.standard {} scripted
    let i : Invocation := { anchor := Question.midMonth }
    let request : Request := { text := "mora norte junio 2025" }
    let s : List (Except Failure (List Row)) := [.error (.timedOut 10000)]
    (keepingEngine.calls b i request s).countP Call.isExecution = 2 ∧
      (keepingEngine.handle b i request s).2.1.cached = 1 ∧
      keepingEngine.handle b.recorded i request (s, []) =
        ((keepingEngine.handle b i request s).1, (keepingEngine.handle b i request s).2.1,
          (keepingEngine.handle b i request s).2.2,
          (keepingEngine.calls b i request s).reverse) ∧
      Orderly keepingEngine.registry.schema (keepingEngine.calls b i request s) ∧
      ((∀ q confidence,
          understand keepingEngine.registry i request ≠ .ok (.resolved q confidence)) →
        keepingEngine.calls b i request s = []) ∧
      (∀ q confidence,
        understand keepingEngine.registry i request = .ok (.resolved q confidence) →
          keepingEngine.Begins i q (keepingEngine.calls b i request s)) ∧
      ∀ x ∈ (keepingEngine.handle b i request s).2.1.results, x ∈ keepingEngine.results ∨
        ∃ c, (keepingEngine.calls b i request s).getLast? = some (.execute c (.ok x.rows)) :=
  ⟨by decide +kernel, by decide +kernel, calls_orderly _ _ _ _ _⟩

end Engine

end BankQuery
