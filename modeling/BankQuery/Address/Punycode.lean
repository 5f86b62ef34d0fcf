/-!
# Punycode

Text beyond ASCII in the letters of ASCII: the characters of ASCII stand in front of the last
hyphen, and behind it each other character as a number of digits that says how far to go on, over
code points first and places in the text second.
-/

namespace BankQuery.Address.Punycode

/-- A digit in base thirty-six, letters first. -/
def digit? (c : Char) : Option Nat :=
  if 'a' ≤ c ∧ c ≤ 'z' then some (c.toNat - 97)
  else if 'A' ≤ c ∧ c ≤ 'Z' then some (c.toNat - 65)
  else if '0' ≤ c ∧ c ≤ '9' then some (c.toNat - 22)
  else none

/-- A digit below this is the last of its number. -/
def threshold (place bias : Nat) : Nat := min 26 (max 1 (place - bias))

def scaleDown (place delta : Nat) : Nat :=
  if 455 < delta then scaleDown (place + 36) (delta / 35) else place + 36 * delta / (delta + 38)
termination_by delta
decreasing_by exact Nat.div_lt_self (by omega) (by omega)

/-- The bias behind a number, where the text has `length` characters by then. -/
def nextBias (delta length : Nat) (first : Bool) : Nat :=
  let delta := if first then delta / 700 else delta / 2
  scaleDown 0 (delta + delta / length)

structure Progress where
  text : List Char
  code : Nat := 128
  place : Nat := 0
  bias : Nat := 72
  /-- The place that the number being read started from. -/
  start : Nat := 0
  weight : Nat := 1
  /-- Thirty-six times the number of the next digit. -/
  round : Nat := 36

def isCodePoint (n : Nat) : Bool := n < 0xD800 || (0xDFFF < n && n < 0x110000)

def Progress.insert? (p : Progress) : Option Progress :=
  let length := p.text.length + 1
  let code := p.code + p.place / length
  let place := p.place % length
  if isCodePoint code then
    some
      { text := p.text.insertIdx place (Char.ofNat code), code := code, place := place + 1,
        bias := nextBias (p.place - p.start) length (p.start == 0), start := place + 1 }
  else none

def Progress.step? (p : Progress) (c : Char) : Option Progress := do
  let d ← digit? c
  let t := threshold p.round p.bias
  let p := { p with place := p.place + d * p.weight }
  if d < t then p.insert?
  else some { p with weight := p.weight * (36 - t), round := p.round + 36 }

/-- What stands before the last hyphen and what stands behind it. A hyphen in front of all is no
separator. -/
def split (cs : List Char) : List Char × List Char :=
  let behind := (cs.reverse.takeWhile (· != '-')).reverse
  if cs.length ≤ behind.length + 1 then ([], cs)
  else (cs.take (cs.length - behind.length - 1), behind)

def decode? (cs : List Char) : Option (List Char) := do
  let (plain, digits) := split cs
  let p ← digits.foldlM Progress.step? ⟨plain, 128, 0, 72, 0, 1, 36⟩
  if p.round = 36 then some p.text else none

end BankQuery.Address.Punycode
