import BankQuery.Json.Value
import BankQuery.Number.Digits

/-!
# Reading JSON

A strict reader: one value with blanks around it, no comments, no closing commas, no bare control
characters in strings.
-/

namespace BankQuery.Json

def skipBlanks (cs : List Char) : List Char :=
  cs.dropWhile fun c => c == ' ' || c == '\n' || c == '\t' || c == '\r'

/-- A UTF-16 unit in four hexadecimal digits. -/
def hex4? (a b c d : Char) : Option Nat := Number.valueIn? 16 [a, b, c, d]

def plainEscape? (c : Char) : Option Char :=
  match c with
  | '"' => some '"'
  | '\\' => some '\\'
  | '/' => some '/'
  | 'b' => some (Char.ofNat 8)
  | 'f' => some (Char.ofNat 12)
  | 'n' => some '\n'
  | 'r' => some '\r'
  | 't' => some '\t'
  | _ => none

def isHighSurrogate (n : Nat) : Bool := 0xD800 ≤ n && n < 0xDC00

def isLowSurrogate (n : Nat) : Bool := 0xDC00 ≤ n && n < 0xE000

/-- The characters of a string so far, in reverse; the first half of a surrogate pair that waits for
its second half; and whether no half was left alone. -/
structure Scanned where
  done : List Char := []
  high : Option Nat := none
  sound : Bool := true

def Scanned.push (s : Scanned) (c : Char) : Scanned := ⟨c :: s.done, none, s.sound && s.high.isNone⟩

def Scanned.unit (s : Scanned) (n : Nat) : Scanned :=
  match s.high with
  | some h =>
    if isLowSurrogate n then
      ⟨Char.ofNat (0x10000 + (h - 0xD800) * 0x400 + (n - 0xDC00)) :: s.done, none, s.sound⟩
    else ⟨s.done, none, false⟩
  | none =>
    if isHighSurrogate n then ⟨s.done, some n, s.sound⟩
    else if isLowSurrogate n then ⟨s.done, none, false⟩
    else s.push (Char.ofNat n)

def Scanned.value (s : Scanned) : Json :=
  if s.sound && s.high.isNone then .string (String.ofList s.done.reverse) else .unreadable

/-- The string up to the closing quote, and the text behind it. -/
def readString (s : Scanned) : List Char → Option (Json × List Char)
  | [] => none
  | '"' :: rest => some (s.value, rest)
  | '\\' :: 'u' :: a :: b :: c :: d :: rest =>
    match hex4? a b c d with
    | some n => readString (s.unit n) rest
    | none => none
  | '\\' :: c :: rest =>
    match plainEscape? c with
    | some e => readString (s.push e) rest
    | none => none
  | c :: rest => if c.toNat < 32 ∨ c = '\\' then none else readString (s.push c) rest

def digitValues (cs : List Char) : List Nat := cs.map fun c => c.toNat - 48

def natOfDigits (ds : List Nat) : Nat := ds.foldl (fun n d => n * 10 + d) 0

def readFraction (cs : List Char) : Option (Option (List Nat) × List Char) :=
  match cs with
  | '.' :: rest =>
    let digits := rest.takeWhile Char.isDigit
    if digits.isEmpty then none else some (some (digitValues digits), rest.drop digits.length)
  | _ => some (none, cs)

def readExponentDigits (negative : Bool) (cs : List Char) : Option (Option Int × List Char) :=
  let digits := cs.takeWhile Char.isDigit
  if digits.isEmpty then none
  else
    let n : Int := natOfDigits (digitValues digits)
    some (some (if negative then -n else n), cs.drop digits.length)

def readExponent (cs : List Char) : Option (Option Int × List Char) :=
  match cs with
  | c :: rest =>
    if c = 'e' ∨ c = 'E' then
      match rest with
      | '+' :: rest' => readExponentDigits false rest'
      | '-' :: rest' => readExponentDigits true rest'
      | _ => readExponentDigits false rest
    else some (none, cs)
  | [] => some (none, [])

/-- Digits before the point: a single zero, or digits that begin with another one. -/
def readWhole (cs : List Char) : Option (List Nat × List Char) :=
  let digits := cs.takeWhile Char.isDigit
  match digits with
  | [] => none
  | ['0'] => some ([0], cs.drop 1)
  | '0' :: _ => none
  | _ => some (digitValues digits, cs.drop digits.length)

def readNumber (negative : Bool) (cs : List Char) : Option (Json × List Char) := do
  let (whole, cs) ← readWhole cs
  let (fraction, cs) ← readFraction cs
  let (exponent, cs) ← readExponent cs
  match Number.ofDigits? negative whole fraction exponent with
  | some (.int n) => return (.int n, cs)
  | some (.float x) => return (.float x, cs)
  | none => return (.unreadable, cs)

/-- The object of these members. It denotes nothing if one of the names does not. -/
def ofMembers (members : List (Json × Json)) : Json :=
  match members.mapM fun m => m.1.text?.map (·, m.2) with
  | some named => .object named
  | none => .unreadable

mutual

/-- A value, nested at most `n` deep. -/
def readValue : Nat → List Char → Option (Json × List Char)
  | 0, _ => none
  | n + 1, cs =>
    match skipBlanks cs with
    | 'n' :: 'u' :: 'l' :: 'l' :: rest => some (.null, rest)
    | 't' :: 'r' :: 'u' :: 'e' :: rest => some (.bool true, rest)
    | 'f' :: 'a' :: 'l' :: 's' :: 'e' :: rest => some (.bool false, rest)
    | '"' :: rest => readString {} rest
    | '[' :: rest =>
      match skipBlanks rest with
      | ']' :: rest => some (.array [], rest)
      | _ => readItems n [] rest
    | '\x7b' :: rest =>
      match skipBlanks rest with
      | '\x7d' :: rest => some (.object [], rest)
      | _ => readMembers n [] rest
    | '-' :: rest => readNumber true rest
    | rest => readNumber false rest

/-- Items of an array after `done`, in reverse. -/
def readItems : Nat → List Json → List Char → Option (Json × List Char)
  | 0, _, _ => none
  | n + 1, done, cs =>
    match readValue n cs with
    | none => none
    | some (item, rest) =>
      match skipBlanks rest with
      | ',' :: rest => readItems n (item :: done) rest
      | ']' :: rest => some (.array (item :: done).reverse, rest)
      | _ => none

def readMembers : Nat → List (Json × Json) → List Char → Option (Json × List Char)
  | 0, _, _ => none
  | n + 1, done, cs =>
    match skipBlanks cs with
    | '"' :: rest =>
      match readString {} rest with
      | some (name, rest) =>
        match skipBlanks rest with
        | ':' :: rest =>
          match readValue n rest with
          | none => none
          | some (value, rest) =>
            match skipBlanks rest with
            | ',' :: rest => readMembers n ((name, value) :: done) rest
            | '\x7d' :: rest => some (ofMembers ((name, value) :: done).reverse, rest)
            | _ => none
        | _ => none
      | _ => none
    | _ => none

end

def read? (s : String) : Option Json :=
  match readValue (s.length + 1) s.toList with
  | some (value, rest) => if (skipBlanks rest).isEmpty then some value else none
  | none => none

end BankQuery.Json
