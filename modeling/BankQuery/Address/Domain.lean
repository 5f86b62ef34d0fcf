import BankQuery.Address.DomainTables
import BankQuery.Address.Internet
import BankQuery.Address.Punycode
import BankQuery.Text.Case
import BankQuery.Text.Visible
import BankQuery.Text.Word

/-!
# Host names

A host name is a row of labels with points between them. It is read without regard to letter case
and to the width of its characters; a label that begins with `xn--` says its text in Punycode. A
name whose last label is a number has to be an internet address.
-/

namespace BankQuery.Address

open Text

/-- Characters of ASCII that no host name holds, blanks and controls among them. -/
def isForbidden (c : Char) : Bool := c.toNat ≤ 32 || c.toNat == 127 || "%#/:<>?@[\\]^|".contains c

/-- The character as it counts in a host name, if it counts; none if it may not stand there. -/
def foldChar? (c : Char) : Option (List Char) :=
  let n := c.toNat
  if n < 128 then if isForbidden c then none else some [c.toLower]
  else if ignoredRanges.has n then some []
  else
    match caseImage plainForms n with
    | some image => some [Char.ofNat image]
    | none => if hiddenRanges.has n || refusedRanges.has n then none else some (lowerChar c)

def foldName? (cs : List Char) : Option (List Char) := (cs.mapM foldChar?).map List.flatten

def isAscii (cs : List Char) : Bool := cs.all (·.toNat < 128)

/-- Whether a text may be a label, as it is read: all of it counts as it stands, and no mark stands
in front. -/
def isLabel (cs : List Char) : Bool :=
  cs.all (fun c => foldChar? c == some [c]) && !cs.head?.any isMark

/-- The text of a label, if it is one. Punycode is used only for a text that is not all ASCII. -/
def labelText? (label : List Char) : Option (List Char) :=
  match label with
  | 'x' :: 'n' :: '-' :: '-' :: rest => do
    if !isAscii rest then none
    let text ← Punycode.decode? rest
    if isLabel text && !isAscii text then some text else none
  | _ => if label.head?.any isMark then none else some label

inductive Direction where
  | left
  | right
  | digit
  | arabicDigit
  | mark
  | neutral
deriving DecidableEq

def rightRanges : Ranges := [
  (0x590, 0x8FF), (0xFB1D, 0xFDFF), (0xFE70, 0xFEFF), (0x10800, 0x10FFF), (0x1E800, 0x1EFFF)]

def arabicDigitRanges : Ranges := [
  (0x660, 0x669), (0x66B, 0x66C), (0x10D30, 0x10D39), (0x10E60, 0x10E7E)]

def direction (c : Char) : Direction :=
  let n := c.toNat
  if extenderRanges.has n then .mark
  else if rightRanges.has n then
    if arabicDigitRanges.has n then .arabicDigit
    else if isLetter c then .right
    else if isDigit c then .digit
    else .neutral
  else if c.isDigit then .digit
  else if isLetter c || isDigit c then .left
  else .neutral

/-- Whether a label is written in one direction, which its first character shows, and ends in a
letter or a digit. -/
def isOneWay (label : List Char) : Bool :=
  let directions := label.map direction
  let last := (directions.reverse.dropWhile (· == .mark)).head?
  match directions.head? with
  | none => true
  | some .left =>
    !directions.contains .right && !directions.contains .arabicDigit &&
      (last == some .left || last == some .digit)
  | some .right =>
    !directions.contains .left && !(directions.contains .digit && directions.contains .arabicDigit)
      && (last == some .right || last == some .digit || last == some .arabicDigit)
  | some _ => false

def isRightward (d : Direction) : Bool := d == .right || d == .arabicDigit

/-- Whether a host name, as it counts, is well formed. Where some of it is written from right to
left, each label is written in one direction. -/
def isDomain (name : List Char) : Bool :=
  match (labelsOf name).mapM labelText? with
  | none => false
  | some labels =>
    !name.isEmpty && (!labels.any (·.any (isRightward <| direction ·)) || labels.all isOneWay) &&
      (!endsInNumber name || isLooseQuad name)

/-- A host name behind percent signs, or an internet address in brackets. -/
def isNamedHost (cs : List Char) : Bool :=
  match cs with
  | '[' :: rest => rest.getLast? == some ']' && isGroups rest.dropLast
  | _ => ((decode? cs).bind fun s => foldName? s.toList).any isDomain

/-- Characters that no host holds whose name is not looked into. -/
def isForbiddenAnywhere (c : Char) : Bool :=
  c.toNat == 0 || [' ', '#', '/', ':', '<', '>', '?', '@', '[', '\\', ']', '^', '|'].contains c

/-- A host of which only the form is looked at. -/
def isOpaqueHost (cs : List Char) : Bool :=
  match cs with
  | '[' :: rest => rest.getLast? == some ']' && isGroups rest.dropLast
  | _ => !cs.any isForbiddenAnywhere

end BankQuery.Address
