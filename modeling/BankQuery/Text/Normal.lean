import BankQuery.Text.Case
import BankQuery.Text.Numeral

/-!
# Normal form of a question

A question is compared in a normal form: lower case, accents folded onto the base letter, and each
run of separators turned into a single space. The words of the normal form are its tokens. Names
typed in capitals are looked for in the raw words, which keep their case.
-/

namespace BankQuery.Text

def foldAccent (c : Char) : Char :=
  if c ∈ ['á', 'à', 'ä', 'â'] then 'a'
  else if c ∈ ['é', 'è', 'ë', 'ê'] then 'e'
  else if c ∈ ['í', 'ì', 'ï', 'î'] then 'i'
  else if c ∈ ['ó', 'ò', 'ö', 'ô'] then 'o'
  else if c ∈ ['ú', 'ù', 'ü', 'û'] then 'u'
  else if c = 'ñ' then 'n'
  else if c = 'ç' then 'c'
  else c

def folded (cs : List Char) : List Char := (cs.flatMap lowerChar).map foldAccent

/-- Maximal runs of characters that satisfy `p`, the open run `run` given in reverse. -/
def runsFrom (p : Char → Bool) (run : List Char) : List Char → List (List Char)
  | [] => if run.isEmpty then [] else [run.reverse]
  | c :: rest =>
    if p c then runsFrom p (c :: run) rest
    else if run.isEmpty then runsFrom p [] rest
    else run.reverse :: runsFrom p [] rest

/-- Maximal runs of characters that satisfy `p`. -/
def runs (p : Char → Bool) (cs : List Char) : List (List Char) := runsFrom p [] cs

def words (s : String) : List String := (runs isAlphanumeric (folded s.toList)).map String.ofList

/-- The words with single spaces between them. -/
def normalize (s : String) : String := " ".intercalate (words s)

/-- Pieces between spaces, the empty ones left out. -/
def tokens (s : String) : List String := (runs (· != ' ') s.toList).map String.ofList

def rawWords (s : String) : List String := (runs isAlphanumeric s.toList).map String.ofList

end BankQuery.Text
