import BankQuery.Candidate.Generation
import BankQuery.Chart.Row
import BankQuery.Failure
import BankQuery.Guard.Check

/-!
# Backends

A backend is where statements come from and where they are run. It has a state of its own, which
each call may change. No candidate is run that has not passed the guard under the registry of its
question.

A candidate that the guard rejects is asked for once more, with the reason. A run that fails in a way
that may pass is tried once more with a new candidate, for which retrieved context is left aside.
-/

namespace BankQuery

/-- Where statements come from and where they are run. -/
structure Backend (σ : Type) where
  /-- A candidate for a question, after a rejection if there was one. -/
  generate : Registry → Question → Context → Option Rejection → σ → Except Failure Candidate × σ
  /-- The rows of a candidate; the flag says whether the asker has gone away. -/
  execute : Candidate → Bool → σ → Except Failure (List Row) × σ

inductive Call where
  | generate (afterRejection : Option Rejection) (result : Except Failure Candidate)
  | execute (candidate : Candidate) (result : Except Failure (List Row))

namespace Backend

variable {σ : Type}

/-- The calls of a backend are added to a list, the last one first. -/
def recorded (b : Backend σ) : Backend (σ × List Call) where
  generate r q context rejection := fun (s, calls) =>
    let (result, s) := b.generate r q context rejection s
    (result, s, .generate rejection result :: calls)
  execute c cancelled := fun (s, calls) =>
    let (result, s) := b.execute c cancelled s
    (result, s, .execute c result :: calls)

/-- A candidate that passes the guard, for which the backend is asked at most `tries` times. -/
def accept (b : Backend σ) (r : Registry) (q : Question) (context : Context) :
    Nat → Option Rejection → σ → Except Failure Candidate × σ
  | 0, last, s => (.error (.rejected (last.getD .notASelect)), s)
  | tries + 1, last, s =>
    match b.generate r q context last s with
    | (.error e, s) => (.error e, s)
    | (.ok c, s) =>
      match Guard.check r.schema c with
      | .ok () => (.ok c, s)
      | .error reason => b.accept r q context tries (some reason) s

def tries : Nat := 2

def attempt (b : Backend σ) (r : Registry) (q : Question) (context : Context) (cancelled : Bool)
    (s : σ) : Except Failure (List Row) × σ :=
  match b.accept r q context tries none s with
  | (.error e, s) => (.error e, s)
  | (.ok c, s) => b.execute c cancelled s

/-- The rows for a question. Only the failure of a run may lead to another attempt. -/
def rows (b : Backend σ) (r : Registry) (q : Question) (context : Context) (cancelled : Bool)
    (s : σ) : Except Failure (List Row) × σ :=
  match b.accept r q context tries none s with
  | (.error e, s) => (.error e, s)
  | (.ok c, s) =>
    match b.execute c cancelled s with
    | (.ok rows, s) => (.ok rows, s)
    | (.error e, s) =>
      if e.isRetryable then b.attempt r q Context.unavailable cancelled s else (.error e, s)

end Backend

def GenerationFault.failure (fault : GenerationFault) : Failure := .generation fault.message

/-- Candidates as they are generated, run by `execute`. -/
def Backend.standard {σ : Type} (options : Generation.Options)
    (execute : Candidate → Bool → σ → Except Failure (List Row) × σ) : Backend σ where
  generate r q context rejection s :=
    ((Candidate.generate options r q context rejection).mapError GenerationFault.failure, s)
  execute := execute

end BankQuery
