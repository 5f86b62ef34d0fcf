import BankQuery.Sql.Keyword
import BankQuery.Text.Case

/-!
# Tokens

The pieces of a statement. A word keeps its text and its quotes; what keyword it is, if it is one,
is the upper-case form of a word without quotes.
-/

namespace BankQuery.Sql

structure Name where
  text : String
  quote : Option Char := none
deriving DecidableEq

structure Word where
  name : Name
  /-- The word in upper case; nothing for a quoted word. -/
  keyword : String
deriving DecidableEq

inductive Token where
  | word (w : Word)
  | number (digits : String) (long : Bool)
  | string (text : String)
  | national (text : String)
  | escaped (text : String)
  | hex (text : String)
  /-- A text between dollar signs, with a tag or without. -/
  | dollar (tag : String) (text : String)
  | placeholder (name : String)
  | symbol (text : String)
  | other (c : Char)
deriving DecidableEq

def Word.bare (text : String) : Word := ⟨⟨text, none⟩, Text.upper text⟩

def Word.quoted (text : String) (quote : Char) : Word := ⟨⟨text, some quote⟩, ""⟩

/-- Whether the word has no meaning of its own. -/
def Word.isPlain (w : Word) : Bool := !keywords.contains w.keyword

def Token.keyword : Token → String
  | .word w => w.keyword
  | _ => ""

/-- Double each quote in a text, except where it is doubled or follows a backslash already. -/
def doubleQuotes (quote : Char) (previous : Char) : List Char → List Char
  | [] => []
  | [c] => if c = quote ∧ previous ≠ '\\' then [c, c] else [c]
  | c :: d :: rest =>
    if c ≠ quote then c :: doubleQuotes quote c (d :: rest)
    else if previous = '\\' then c :: doubleQuotes quote previous (d :: rest)
    else if d = quote then c :: d :: doubleQuotes quote c rest
    else c :: c :: doubleQuotes quote c (d :: rest)

def quotedText (quote : Char) (text : String) : String :=
  String.singleton quote ++ String.ofList (doubleQuotes quote (Char.ofNat 0) text.toList) ++
    String.singleton quote

def Name.print (n : Name) : String :=
  match n.quote with
  | some q => quotedText q n.text
  | none => n.text

def printNames (names : List Name) : String := ".".intercalate (names.map Name.print)

def escapeChar (c : Char) : List Char :=
  if c = '\'' then ['\\', '\'']
  else if c = '\\' then ['\\', '\\']
  else if c = '\n' then ['\\', 'n']
  else if c = '\t' then ['\\', 't']
  else if c = '\r' then ['\\', 'r']
  else [c]

def printEscaped (text : String) : String :=
  "E'" ++ String.ofList (text.toList.flatMap escapeChar) ++ "'"

def printDollar (tag text : String) : String := "$" ++ tag ++ "$" ++ text ++ "$" ++ tag ++ "$"

def Token.print : Token → String
  | .word w =>
    match w.name.quote with
    | some q => String.singleton q ++ w.name.text ++ String.singleton q
    | none => w.name.text
  | .number digits long => digits ++ if long then "L" else ""
  | .string text => "'" ++ text ++ "'"
  | .national text => "N'" ++ text ++ "'"
  | .escaped text => "E'" ++ text ++ "'"
  | .hex text => "X'" ++ text ++ "'"
  | .dollar tag text => printDollar tag text
  | .placeholder name => name
  | .symbol text => text
  | .other c => String.singleton c

end BankQuery.Sql
