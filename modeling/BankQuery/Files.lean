import BankQuery.Config.Format
import BankQuery.Failure
import BankQuery.Json.Reader
import BankQuery.Registry.Format

/-!
# Files

A registry or a configuration is kept as JSON in a file. It is used only if it passes its own check.
What is read from a file is its content, or else what the file system has to say. What a reader of
JSON has to say of a text that it cannot take is left out: one sentence stands for it.
-/

namespace BankQuery

def valueOf {α : Type} (ofJson? : Json → Option α) : Except String String → Except Failure α
  | .error detail => .error (.io detail)
  | .ok content =>
    match (Json.read? content).bind ofJson? with
    | some a => .ok a
    | none => .error (.json "not a value of the expected form")

def Registry.ofFile (content : Except String String) : Except Failure Registry := do
  let r ← valueOf Registry.ofJson? content
  match r.check with
  | .ok () => .ok r
  | .error fault => .error (.registry fault.message)

def Config.ofFile (content : Except String String) : Except Failure Config := do
  let c ← valueOf Config.ofJson? content
  match c.check with
  | .ok () => .ok c
  | .error fault => .error (.config fault.message)

end BankQuery
