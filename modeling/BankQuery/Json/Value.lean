import BankQuery.Number.Decimal

/-!
# JSON values

Objects keep their members in order, repeated names included, so that a reader of records can refuse
a name that occurs twice. What is well formed and yet denotes nothing is `unreadable`: a number
beyond the largest double, a string with half of a surrogate pair, an object with such a name. It is
no value of any type, but it may be skipped.
-/

namespace BankQuery

inductive Json where
  | null
  | bool (value : Bool)
  | int (value : Int)
  | float (value : Float)
  | string (value : String)
  | array (items : List Json)
  | object (members : List (String × Json))
  | unreadable

namespace Json

def text? : Json → Option String
  | .string s => some s
  | _ => none

/-- The last member of that name. -/
def get? (j : Json) (name : String) : Option Json :=
  match j with
  | .object members => members.reverse.lookup name
  | _ => none

def ofOption {α : Type} (f : α → Json) : Option α → Json
  | some a => f a
  | none => .null

def strings (texts : List String) : Json := .array (texts.map .string)

def whenSome {α : Type} (name : String) (f : α → Json) : Option α → List (String × Json)
  | some a => [(name, f a)]
  | none => []

end Json

end BankQuery
