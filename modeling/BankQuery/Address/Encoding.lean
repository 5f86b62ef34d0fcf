import BankQuery.Number.Digits

/-!
# Percent encoding

A percent sign and two hexadecimal digits stand for one octet, any other character for its own
octets in UTF-8. What an address says in its parts is text only if these octets are.
-/

namespace BankQuery.Address

def octets : List Char → List UInt8
  | [] => []
  | '%' :: a :: b :: rest =>
    match Number.valueIn? 16 [a, b] with
    | some n => UInt8.ofNat n :: octets rest
    | none => String.utf8EncodeChar '%' ++ octets (a :: b :: rest)
  | c :: rest => String.utf8EncodeChar c ++ octets rest

def decode? (cs : List Char) : Option String := String.fromUTF8? ⟨(octets cs).toArray⟩

def isText (cs : List Char) : Bool := (decode? cs).isSome

/-- The text of a name or a value in the query of an address, where a plus sign is a blank. -/
def decodeForm? (cs : List Char) : Option String :=
  decode? (cs.map fun c => if c = '+' then ' ' else c)

/-- The pieces between the characters that satisfy `p`, of which there is one more than of these. -/
def pieces (p : Char → Bool) : List Char → List (List Char)
  | [] => [[]]
  | c :: rest =>
    if p c then [] :: pieces p rest
    else
      match pieces p rest with
      | [] => [[c]]
      | piece :: others => (c :: piece) :: others

end BankQuery.Address
