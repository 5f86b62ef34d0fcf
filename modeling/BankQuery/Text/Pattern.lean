import BankQuery.Text.Blank
import BankQuery.Text.Word

/-!
# Text patterns

A pattern is tried at a place in a text. Alternatives are tried in order and repetition takes as
many rounds as it can, giving rounds back one by one when the rest of the pattern fails. `find`
returns the match that begins leftmost, `findAll` all matches from left to right without overlap.
-/

namespace BankQuery.Text

/-- A place in a text: the character before it, the characters after it, and the pieces kept on the
way, the latest first. -/
structure Place where
  before : Option Char
  rest : List Char
  kept : List (String × List Char) := []

def Place.atBoundary (s : Place) : Bool := s.before.any isWordChar != s.rest.head?.any isWordChar

inductive Pattern where
  | empty
  | one (p : Char → Bool)
  | boundary
  | both (first second : Pattern)
  | either (first second : Pattern)
  | many (inner : Pattern)
  | keep (label : String) (inner : Pattern)

namespace Pattern

variable {α : Type}

/-- Repeat a step up to `n` times as long as it consumes something, most rounds first. -/
def rounds (step : Place → (Place → Option α) → Option α) :
    Nat → Place → (Place → Option α) → Option α
  | 0, s, k => k s
  | n + 1, s, k =>
    match step s fun t => if t.rest.length < s.rest.length then rounds step n t k else none with
    | some a => some a
    | none => k s

/-- Match a pattern at a place and go on with `k`. -/
def run : Pattern → Place → (Place → Option α) → Option α
  | .empty, s, k => k s
  | .one p, s, k =>
    match s.rest with
    | [] => none
    | c :: rest => if p c then k { s with before := some c, rest } else none
  | .boundary, s, k => if s.atBoundary then k s else none
  | .both p q, s, k => p.run s fun t => q.run t k
  | .either p q, s, k =>
    match p.run s k with
    | some a => some a
    | none => q.run s k
  | .many p, s, k => rounds (fun t k => p.run t k) s.rest.length s k
  | .keep label p, s, k =>
    p.run s fun t =>
      k { t with kept := (label, s.rest.take (s.rest.length - t.rest.length)) :: t.kept }

end Pattern

/-- A match: the text it covers, the pieces it kept, and the place behind it. -/
structure Found where
  text : List Char
  stop : Place

def Found.piece? (m : Found) (label : String) : Option String :=
  (m.stop.kept.lookup label).map String.ofList

namespace Pattern

def matchAt (p : Pattern) (before : Option Char) (cs : List Char) : Option Found :=
  (p.run { before, rest := cs } some).map fun t => ⟨cs.take (cs.length - t.rest.length), t⟩

def findFrom (p : Pattern) (before : Option Char) : List Char → Option Found
  | [] => p.matchAt before []
  | c :: rest =>
    match p.matchAt before (c :: rest) with
    | some m => some m
    | none => p.findFrom (some c) rest

def find (p : Pattern) (s : String) : Option Found := p.findFrom none s.toList

def occursIn (p : Pattern) (s : String) : Bool := (p.find s).isSome

def findAllFrom (p : Pattern) : Nat → Option Char → List Char → List Found
  | 0, _, _ => []
  | n + 1, before, cs =>
    match p.findFrom before cs with
    | none => []
    | some m => m :: p.findAllFrom n m.stop.before m.stop.rest

/-- Matches from left to right, each beginning where the one before it ends. The pattern is meant to
consume something. -/
def findAll (p : Pattern) (s : String) : List Found := p.findAllFrom (s.length + 1) none s.toList

instance : Append Pattern := ⟨both⟩

def char (c : Char) : Pattern := .one (· == c)

def literal (s : String) : Pattern := s.toList.foldr (fun c p => .both (char c) p) .empty

def oneOf : List Pattern → Pattern
  | [] => .one fun _ => false
  | [p] => p
  | p :: rest => .either p (oneOf rest)

def anyOf (texts : List String) : Pattern := oneOf (texts.map literal)

def option (p : Pattern) : Pattern := .either p .empty

def some1 (p : Pattern) : Pattern := .both p (.many p)

def blanks : Pattern := some1 (.one isBlank)

def optionalBlanks : Pattern := .many (.one isBlank)

def digit : Pattern := .one isDigit

/-- One to three digits, as many as there are. -/
def shortNumber : Pattern := digit ++ option (digit ++ option digit)

/-- Letters that agree up to case, the Kelvin sign and the long s included. -/
def sameLetter (l c : Char) : Bool :=
  c.toLower == l.toLower || (l.toLower == 'k' && c.val == 0x212A) ||
    (l.toLower == 's' && c.val == 0x17F)

def anyCase (s : String) : Pattern :=
  s.toList.foldr (fun l p => .both (.one (sameLetter l)) p) .empty

def anyCaseOf (texts : List String) : Pattern := oneOf (texts.map anyCase)

end Pattern

end BankQuery.Text
