import BankQuery.Text.Visible

/-!
# Quoted text

Names are listed in messages between double quotes. Quotes, backslashes and the usual control
characters are escaped with a backslash, any other character that does not show on its own with its
code point in hexadecimal.
-/

namespace BankQuery.Text

def hexText (n : Nat) : String := String.ofList (Nat.toDigits 16 n)

def escaped (c : Char) : String :=
  if c = '"' then "\\\""
  else if c = '\\' then "\\\\"
  else if c = '\n' then "\\n"
  else if c = '\t' then "\\t"
  else if c = '\r' then "\\r"
  else if c.toNat = 0 then "\\0"
  else if isVisible c then String.singleton c
  else "\\u\x7b" ++ hexText c.toNat ++ "\x7d"

def quoted (s : String) : String := "\"" ++ String.join (s.toList.map escaped) ++ "\""

def quotedList (texts : List String) : String := "[" ++ ", ".intercalate (texts.map quoted) ++ "]"

end BankQuery.Text
