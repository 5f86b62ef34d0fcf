import BankQuery.CommandLine
import BankQuery.Config.Environment
import BankQuery.Engine.Format
import BankQuery.Engine.Start
import BankQuery.Json.Pretty
import Std.Time

/-!
# The program

Answers one question and writes the response as JSON. Statements are generated and checked here;
there is no connection to a database, and a question that gets as far as one ends with the failure
to have one.
-/

namespace BankQuery.Program

def readFrom (path : String) : IO (Except String String) := do
  try
    return .ok (← IO.FS.readFile path)
  catch e => return .error e.toString

def environment : IO Config.Environment := do
  let values ← Config.variableNames.mapM fun name => do return (name, ← IO.getEnv name)
  return fun name => (values.lookup name).join

def today : IO (Option Date) := do
  let d ← Std.Time.PlainDate.now
  return Date.ofParts? d.year.toInt d.month.val.toNat d.day.val.toNat

/-- A random identifier of version four. -/
def identifier : IO String := do
  let digits ← (List.range 32).mapM fun i => do
    if i = 12 then return '4'
    else if i = 16 then return Json.lowerHex (8 + (← IO.rand 0 3))
    else return Json.lowerHex (← IO.rand 0 15)
  let part (start count : Nat) : String := String.ofList ((digits.drop start).take count)
  return "-".intercalate [part 0 8, part 8 4, part 12 4, part 16 4, part 20 12]

def giveUp (text : String) (code : UInt32) : IO UInt32 := do
  IO.eprintln ("error: " ++ text)
  return code

def settings (a : Arguments) : IO (Except Failure Config) := do
  let config ← match a.config with
    | some path => do pure (Config.ofFile (← readFrom path))
    | none => do
      pure ((Config.ofEnvironment (← environment)).mapError fun fault =>
        Failure.config fault.message)
  return config.map fun c => { c with databaseUrl := a.databaseUrl.or c.databaseUrl }

def priorQuestion (a : Arguments) : IO (Except Failure (Option Question)) := do
  match a.context with
  | none => return .ok none
  | some path => return (valueOf Question.ofJson? (← readFrom path)).map some

def noDatabase : Candidate → Bool → Unit → Except Failure (List Row) × Unit :=
  fun _ _ s => (.error (.poolExhausted "no connection"), s)

def respond (a : Arguments) (text : String) (config : Config) (prior : Option Question) :
    IO UInt32 := do
  let content ← match config.registryPath with
    | some path => readFrom path
    | none => pure (.error "no file")
  match Engine.start config content { dense := a.dense }, a.now.or (← today) with
  | .error f, _ => giveUp f.message 1
  | .ok _, none => giveUp "no date" 1
  | .ok engine, some day =>
    let backend := Backend.standard (Engine.generation config) noDatabase
    let (response, _, _) :=
      engine.handle backend { anchor := Anchor.of day a.latest } { text, prior } ()
    IO.println (Json.pretty 0 (response.toJson (← identifier)))
    return 0

def run (a : Arguments) (text : String) : IO UInt32 := do
  match ← settings a with
  | .error f => giveUp f.message 1
  | .ok config =>
    match ← priorQuestion a with
    | .error f => giveUp f.message 1
    | .ok prior => respond a text config prior

end BankQuery.Program

open BankQuery in
def main (arguments : List String) : IO UInt32 := do
  match Arguments.read arguments with
  | .error fault => Program.giveUp (fault.message ++ "\n\n" ++ Arguments.usage) 2
  | .ok a =>
    if a.help then
      IO.println Arguments.usage
      return 0
    else
      match a.question with
      | some text => Program.run a text
      | none => Program.giveUp (ArgumentFault.noQuestion.message ++ "\n\n" ++ Arguments.usage) 2
