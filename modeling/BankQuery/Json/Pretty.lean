import BankQuery.Json.Writer

/-!
# Indented JSON

The form for a reader: each item and each member on a line of its own, two blanks deeper than the
brackets around it.
-/

namespace BankQuery.Json

def newLine (depth : Nat) : String := "\n" ++ String.ofList (List.replicate (2 * depth) ' ')

mutual

def pretty (depth : Nat) : Json → String
  | .array [] => "[]"
  | .array (item :: items) =>
    "[" ++ newLine (depth + 1) ++ pretty (depth + 1) item ++ prettyItems depth items
  | .object [] => "\x7b\x7d"
  | .object ((name, value) :: members) =>
    "\x7b" ++ newLine (depth + 1) ++ quote name ++ ": " ++ pretty (depth + 1) value ++
      prettyMembers depth members
  | .null => write .null
  | .bool b => write (.bool b)
  | .int n => write (.int n)
  | .float x => write (.float x)
  | .string s => write (.string s)
  | .unreadable => write .unreadable

def prettyItems (depth : Nat) : List Json → String
  | [] => newLine depth ++ "]"
  | item :: items =>
    "," ++ newLine (depth + 1) ++ pretty (depth + 1) item ++ prettyItems depth items

def prettyMembers (depth : Nat) : List (String × Json) → String
  | [] => newLine depth ++ "\x7d"
  | (name, value) :: members =>
    "," ++ newLine (depth + 1) ++ quote name ++ ": " ++ pretty (depth + 1) value ++
      prettyMembers depth members

end

end BankQuery.Json
