import BankQuery.Calendar.Date

/-!
# The command line

One question, and options that may stand before or behind it. The value of an option is the next
argument or follows an equals sign. Behind two dashes everything is the question.
-/

namespace BankQuery

structure Arguments where
  question : Option String := none
  /-- A file with the question before this one. -/
  context : Option String := none
  /-- A file with the configuration. -/
  config : Option String := none
  databaseUrl : Option String := none
  dense : Bool := false
  now : Option Date := none
  latest : Option Date := none
  help : Bool := false

inductive ArgumentFault where
  | noQuestion
  | unexpected (argument : String)
  | noValue (option : String)
  | invalidDate (option value : String)
  | repeated (option : String)
deriving DecidableEq

def ArgumentFault.message : ArgumentFault → String
  | .noQuestion => "a question is required"
  | .unexpected argument => "unexpected argument '" ++ argument ++ "'"
  | .noValue option => "a value is required for '" ++ option ++ "'"
  | .invalidDate option value => "invalid value '" ++ value ++ "' for '" ++ option ++ "'"
  | .repeated option => "the argument '" ++ option ++ "' cannot be used multiple times"

namespace Arguments

def usage : String :=
  "Answer banking KPI questions in Spanish with validated SQL\n\n" ++
  "Usage: bankquery [OPTIONS] <QUERY>\n\n" ++
  "Options:\n" ++
  "      --context <FILE>          Prior question (JSON) to refine with a follow-up\n" ++
  "  -c, --config <FILE>           Configuration (JSON); environment variables otherwise\n" ++
  "      --database-url <URL>      Overrides NL2SQL_DATABASE_URL / DATABASE_URL\n" ++
  "      --dense                   Null points for months without data\n" ++
  "      --now <DATE>              The day of the question; today otherwise\n" ++
  "      --latest-period <DATE>    Most recent month with data; last month otherwise\n" ++
  "  -h, --help                    Print help"

def setOnce {α : Type} (option : String) (old : Option α) (value : α) :
    Except ArgumentFault (Option α) :=
  match old with
  | none => .ok (some value)
  | some _ => .error (.repeated option)

def date (option value : String) : Except ArgumentFault Date :=
  match Date.read? value with
  | some d => .ok d
  | none => .error (.invalidDate option value)

def valued : List (String × String) := [
  ("--context", "--context"), ("-c", "--config"), ("--config", "--config"),
  ("--database-url", "--database-url"), ("--now", "--now"), ("--latest-period", "--latest-period")]

def setValue (a : Arguments) (option value : String) : Except ArgumentFault Arguments := do
  if option = "--context" then return { a with context := ← setOnce option a.context value }
  else if option = "--config" then return { a with config := ← setOnce option a.config value }
  else if option = "--database-url" then
    return { a with databaseUrl := ← setOnce option a.databaseUrl value }
  else if option = "--now" then
    return { a with now := ← setOnce option a.now (← date option value) }
  else return { a with latest := ← setOnce option a.latest (← date option value) }

def setQuestion (a : Arguments) (text : String) : Except ArgumentFault Arguments :=
  match a.question with
  | none => .ok { a with question := some text }
  | some _ => .error (.unexpected text)

def setFlag (a : Arguments) (option : String) : Except ArgumentFault Arguments :=
  if option = "--dense" then
    if a.dense then .error (.repeated option) else .ok { a with dense := true }
  else if option = "--help" ∨ option = "-h" then .ok { a with help := true }
  else .error (.unexpected option)

def splitEquals (argument : String) : String × Option String :=
  let name := argument.toList.takeWhile (· != '=')
  match argument.toList.drop name.length with
  | [] => (argument, none)
  | _ :: value => (String.ofList name, some (String.ofList value))

def isOption (argument : String) : Bool :=
  match argument.toList with
  | '-' :: _ :: _ => true
  | _ => false

def readFrom (a : Arguments) : List String → Except ArgumentFault Arguments
  | [] => .ok a
  | "--" :: rest => rest.foldlM setQuestion a
  | argument :: rest =>
    if !isOption argument then do readFrom (← a.setQuestion argument) rest
    else
      let (name, value) := splitEquals argument
      match valued.lookup name, value, rest with
      | some option, some value, rest => do readFrom (← a.setValue option value) rest
      | some option, none, value :: rest => do readFrom (← a.setValue option value) rest
      | some option, none, [] => .error (.noValue option)
      | none, _, rest => do readFrom (← a.setFlag argument) rest

def read (arguments : List String) : Except ArgumentFault Arguments := readFrom {} arguments

end Arguments

end BankQuery
