import BankQuery.Registry.Entry
import BankQuery.Sorting

/-!
# Aliases in a text

An alias is a surface form as a list of words that points at an entry. `scan` goes through the words
of a text from left to right and takes at each place the longest alias that begins there and whose
words are all free, the earliest entry among equally long ones. The words of an alias that was found
are taken and stand for nothing else afterwards.
-/

namespace BankQuery

/-- A word of the text, and whether an entry has been found there. -/
structure Token where
  word : String
  taken : Bool := false
deriving DecidableEq

structure Alias where
  words : List String
  entry : Nat
deriving DecidableEq

namespace Alias

/-- Aliases for the surface forms of the entries from number `i` on. -/
def formsFrom : Nat → List (List String) → List Alias
  | _, [] => []
  | i, forms :: rest =>
    forms.map (fun form => ⟨Text.tokens (Text.normalize form), i⟩) ++ formsFrom (i + 1) rest

/-- All aliases with at least one word, longest first. -/
def index (entries : List (List String)) : List Alias :=
  sortBy (fun a b => b.words.length < a.words.length)
    ((formsFrom 0 entries).filter fun a => !a.words.isEmpty)

/-- Whether the words stand, free, at the start of the text. -/
def standsAt : List String → List Token → Bool
  | [], _ => true
  | _ :: _, [] => false
  | w :: ws, t :: ts => t.word == w && !t.taken && standsAt ws ts

/-- The aliases found from left to right, and the text with their words taken. The first `skip`
words belong to an alias already found. -/
def scanFrom (aliases : List Alias) : Nat → List Token → List Alias × List Token
  | _, [] => ([], [])
  | skip + 1, t :: ts =>
    let (found, rest) := scanFrom aliases skip ts
    (found, { t with taken := true } :: rest)
  | 0, t :: ts =>
    match aliases.find? fun a => standsAt a.words (t :: ts) with
    | some a =>
      let (found, rest) := scanFrom aliases (a.words.length - 1) ts
      (a :: found, { t with taken := true } :: rest)
    | none =>
      let (found, rest) := scanFrom aliases 0 ts
      (found, t :: rest)

/-- The entries found, in order of first appearance, and the text with their words taken. -/
def scan (aliases : List Alias) (text : List Token) : List Nat × List Token :=
  let (found, rest) := scanFrom aliases 0 text
  ((found.map Alias.entry).eraseDups, rest)

end Alias

def Token.ofText (normal : String) : List Token := (Text.tokens normal).map fun w => ⟨w, false⟩

end BankQuery
