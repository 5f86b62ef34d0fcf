import BankQuery.Address.Encoding

/-!
# Addresses of machines

The texts of internet addresses: four decimal numbers with points between them, or groups of
hexadecimal digits with colons between them. A host name whose last part is a number is also read as
an address, of up to four numbers in base ten, eight or sixteen.
-/

namespace BankQuery.Address

open Number

def labelsOf (cs : List Char) : List (List Char) := pieces (· == '.') cs

def isOctet (cs : List Char) : Bool :=
  cs.all Char.isDigit &&
    match cs with
    | [] => false
    | [_] => true
    | c :: _ => c != '0' && cs.length ≤ 3 && (valueIn? 10 cs).any (· ≤ 255)

def isQuad (cs : List Char) : Bool := (labelsOf cs).length == 4 && (labelsOf cs).all isOctet

/-- Up to four hexadecimal digits. -/
def isGroup (cs : List Char) : Bool :=
  !cs.isEmpty && cs.length ≤ 4 && cs.all fun c => (hexDigit? c).isSome

/-- How many groups there are with colons between them, where the last two may be a quad if
`quad` says so. -/
def groupCount? (quad : Bool) (cs : List Char) : Option Nat :=
  if cs.isEmpty then some 0
  else
    match (pieces (· == ':') cs).reverse with
    | [] => none
    | last :: before =>
      if !before.all isGroup then none
      else if isGroup last then some (before.length + 1)
      else if quad && isQuad last then some (before.length + 2)
      else none

def aroundGap? : List Char → Option (List Char × List Char)
  | ':' :: ':' :: rest => some ([], rest)
  | c :: rest => (aroundGap? rest).map fun (before, behind) => (c :: before, behind)
  | [] => none

/-- Eight groups, or fewer with one gap that stands for at least one. -/
def isGroups (cs : List Char) : Bool :=
  match aroundGap? cs with
  | none => groupCount? true cs == some 8
  | some (before, behind) =>
    match groupCount? false before, groupCount? true behind with
    | some n, some m => n + m ≤ 7
    | _, _ => false

def isInternet (cs : List Char) : Bool := isQuad cs || isGroups cs

/-- A number in base sixteen behind `0x`, in base eight behind a zero, else in base ten. -/
def looseNumber? (cs : List Char) : Option Nat :=
  match cs with
  | [] => none
  | '0' :: 'x' :: digits => valueIn? 16 digits
  | '0' :: digits => valueIn? 8 digits
  | digits => valueIn? 10 digits

/-- The parts of a host name, the empty one behind a closing point left out. -/
def significantLabels (cs : List Char) : List (List Char) :=
  match (labelsOf cs).reverse with
  | [] :: others => others.reverse
  | _ => labelsOf cs

def endsInNumber (cs : List Char) : Bool :=
  match (significantLabels cs).getLast? with
  | some label => !label.isEmpty && (label.all Char.isDigit || (looseNumber? label).isSome)
  | none => false

/-- Up to four numbers of one octet each, of which the last fills what is left of four octets. -/
def isLooseQuad (cs : List Char) : Bool :=
  match (significantLabels cs).mapM looseNumber? with
  | none => false
  | some numbers =>
    match numbers.reverse with
    | [] => false
    | last :: others =>
      others.length ≤ 3 && others.all (· ≤ 255) && last < Nat.pow 256 (4 - others.length)

end BankQuery.Address
