import BankQuery.Json.Value

/-!
# Writing JSON

The compact form: no blanks, members in order, and only the characters escaped that have to be.
-/

namespace BankQuery.Json

def lowerHex (n : Nat) : Char := Char.ofNat (if n < 10 then 48 + n else 87 + n)

def escape (c : Char) : List Char :=
  if c = '"' then ['\\', '"']
  else if c = '\\' then ['\\', '\\']
  else if c = '\n' then ['\\', 'n']
  else if c = '\r' then ['\\', 'r']
  else if c = '\t' then ['\\', 't']
  else if c.toNat = 8 then ['\\', 'b']
  else if c.toNat = 12 then ['\\', 'f']
  else if c.toNat < 32 then ['\\', 'u', '0', '0', lowerHex (c.toNat / 16), lowerHex (c.toNat % 16)]
  else [c]

def quote (s : String) : String := "\"" ++ String.ofList (s.toList.flatMap escape) ++ "\""

def intText : Int → String
  | .ofNat n => Nat.repr n
  | .negSucc n => "-" ++ Nat.repr (n + 1)

mutual

def write : Json → String
  | .null => "null"
  | .bool true => "true"
  | .bool false => "false"
  | .int n => intText n
  | .float x => (Number.Shown.ofFloat x).json
  | .string s => quote s
  | .array [] => "[]"
  | .array (item :: items) => "[" ++ write item ++ writeItems items
  | .object [] => "\x7b\x7d"
  | .object ((name, value) :: members) =>
    "\x7b" ++ quote name ++ ":" ++ write value ++ writeMembers members
  | .unreadable => "null"

def writeItems : List Json → String
  | [] => "]"
  | item :: items => "," ++ write item ++ writeItems items

def writeMembers : List (String × Json) → String
  | [] => "\x7d"
  | (name, value) :: members => "," ++ quote name ++ ":" ++ write value ++ writeMembers members

end

end BankQuery.Json
