import BankQuery.Text.Normal

/-!
# Similarity of names

Two names are compared by their normal forms: the Jaro-Winkler similarity, and a bonus when one
contains the other, larger the closer their lengths. `Matcher.best?` looks for the candidate most
like a word; of equally similar candidates the earliest is meant.
-/

namespace BankQuery.Text

/-- Place of the first character of `cs` from `i` on that equals `c`, is not taken, and lies between
`low` and `high`. -/
def partner? (c : Char) (low high : Nat) (taken : List Nat) : Nat → List Char → Option Nat
  | _, [] => none
  | i, d :: rest =>
    if low ≤ i ∧ i < high ∧ c = d ∧ i ∉ taken then some i
    else partner? c low high taken (i + 1) rest

/-- Pair each character of `a`, from place `i` on, with the first free equal character of `b` at
most `reach` places away. The paired characters of `a` and the places taken in `b`. -/
def pairUp (reach : Nat) (b : List Char) (taken : List Nat) : Nat → List Char → List Char × List Nat
  | _, [] => ([], taken)
  | i, c :: rest =>
    match partner? c (i - reach) (i + reach + 1) taken 0 b with
    | some j =>
      let (cs, places) := pairUp reach b (j :: taken) (i + 1) rest
      (c :: cs, places)
    | none => pairUp reach b taken (i + 1) rest

def atPlaces (places : List Nat) : Nat → List Char → List Char
  | _, [] => []
  | i, c :: rest =>
    if i ∈ places then c :: atPlaces places (i + 1) rest else atPlaces places (i + 1) rest

def differences (a b : List Char) : Nat := ((a.zip b).filter fun p => p.1 != p.2).length

/-- Jaro similarity: paired characters against both lengths, and how many pairs keep their order. -/
def jaro (a b : List Char) : Float :=
  if a.isEmpty && b.isEmpty then 1
  else if a.isEmpty || b.isEmpty then 0
  else
    let (paired, places) := pairUp (Nat.max a.length b.length / 2 - 1) b [] 0 a
    let swaps := differences paired (atPlaces places 0 b) / 2
    let count := Float.ofNat paired.length
    if paired.isEmpty then 0
    else
      (count / Float.ofNat a.length + count / Float.ofNat b.length +
        Float.ofNat (paired.length - swaps) / count) / 3

def commonStart : List Char → List Char → Nat
  | c :: a, d :: b => if c = d then commonStart a b + 1 else 0
  | _, _ => 0

/-- Jaro similarity, raised for a common start of up to four characters. -/
def jaroWinkler (a b : List Char) : Float :=
  let s := jaro a b
  if s > 0.7 then s + 0.1 * Float.ofNat (commonStart (a.take 4) b) * (1 - s) else s

def startsWith : List Char → List Char → Bool
  | [], _ => true
  | _, [] => false
  | c :: a, d :: b => c == d && startsWith a b

def occurs (part : List Char) : List Char → Bool
  | [] => part.isEmpty
  | c :: rest => startsWith part (c :: rest) || occurs part rest

/-- Up to a tenth, when one name contains the other; lengths are counted in bytes. -/
def containmentBonus (a b : String) : Float :=
  if occurs b.toList a.toList || occurs a.toList b.toList then
    let (m, n) := (a.utf8ByteSize, b.utf8ByteSize)
    (1 - Float.ofNat (Nat.max m n - Nat.min m n) / Float.ofNat (Nat.max m n)) * 0.1
  else 0

/-- Similarity of two texts in normal form, from zero to one. -/
def likeness (a b : String) : Float :=
  if a = "" ∨ b = "" then 0
  else
    let score := jaroWinkler a.toList b.toList + containmentBonus a b
    if score < 1 then score else 1

def similarity (a b : String) : Float := likeness (normalize a) (normalize b)

structure Matcher where
  threshold : Float := 0.88
  minLength : Nat := 4

namespace Matcher

variable {α : Type}

def accepts (m : Matcher) (a b : String) : Bool := similarity a b ≥ m.threshold

/-- The better of a candidate found earlier and one found later. -/
def better (earlier : Option (α × Float)) (later : α × Float) : Option (α × Float) :=
  match earlier with
  | some e => if later.2 ≤ e.2 then some e else some later
  | none => some later

def step (m : Matcher) (target : String) (found : Option (α × Float)) (candidate : α × String) :
    Option (α × Float) :=
  let score := similarity target candidate.2
  if score < m.threshold then found else better found (candidate.1, score)

/-- The most similar candidate that reaches the threshold, with its score. -/
def best? (m : Matcher) (target : String) (candidates : List (α × String)) : Option (α × Float) :=
  if (normalize target).length < m.minLength then none
  else candidates.foldl (m.step target) none

end Matcher

end BankQuery.Text
