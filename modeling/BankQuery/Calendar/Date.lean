import BankQuery.Text.Blank

/-!
# Calendar dates

Dates of the proleptic Gregorian calendar in the years −262143 to 262142. Dates are compared by
`key`, months are counted by `monthIndex`. Shifting a date by months keeps the day where the month
has it and takes the last day otherwise; a shift that would leave the calendar does nothing.

A date is written `YYYY-MM-DD`. Years outside 0 to 9999 carry a sign and at least four digits.
-/

namespace BankQuery

def isLeapYear (y : Int) : Bool := y % 4 == 0 && (y % 100 != 0 || y % 400 == 0)

def daysInMonth (y : Int) (m : Nat) : Nat :=
  if m = 2 then (if isLeapYear y then 29 else 28)
  else if m = 4 ∨ m = 6 ∨ m = 9 ∨ m = 11 then 30
  else 31

def firstYear : Int := -262143

def lastYear : Int := 262142

structure Date where
  year : Int
  month : Nat
  day : Nat
  year_mem : firstYear ≤ year ∧ year ≤ lastYear
  month_mem : 1 ≤ month ∧ month ≤ 12
  day_mem : 1 ≤ day ∧ day ≤ daysInMonth year month
deriving DecidableEq

theorem one_le_daysInMonth (y : Int) (m : Nat) : 1 ≤ daysInMonth y m := by
  unfold daysInMonth
  split <;> split <;> simp

namespace Date

def ofParts? (year : Int) (month day : Nat) : Option Date :=
  if h : (firstYear ≤ year ∧ year ≤ lastYear) ∧ (1 ≤ month ∧ month ≤ 12) ∧
      (1 ≤ day ∧ day ≤ daysInMonth year month) then
    some ⟨year, month, day, h.1, h.2.1, h.2.2⟩
  else none

/-- Months since January of year zero. -/
def monthIndex (d : Date) : Int := d.year * 12 + (d.month - 1)

/-- Larger for later dates. -/
def key (d : Date) : Int := d.monthIndex * 32 + d.day

instance : LE Date := ⟨fun a b => a.key ≤ b.key⟩

instance : LT Date := ⟨fun a b => a.key < b.key⟩

instance (a b : Date) : Decidable (a ≤ b) := inferInstanceAs (Decidable (a.key ≤ b.key))

instance (a b : Date) : Decidable (a < b) := inferInstanceAs (Decidable (a.key < b.key))

def min (a b : Date) : Date := if a ≤ b then a else b

def max (a b : Date) : Date := if a ≤ b then b else a

def monthStart (d : Date) : Date :=
  { d with day := 1, day_mem := ⟨Nat.le_refl 1, one_le_daysInMonth d.year d.month⟩ }

/-- The same day `delta` months later. -/
def shift (d : Date) (delta : Int) : Date :=
  let index := d.monthIndex + delta
  let month := (index % 12).toNat + 1
  (ofParts? (index / 12) month (Nat.min d.day (daysInMonth (index / 12) month))).getD d

def pad (width n : Nat) : String :=
  let digits := Nat.repr n
  String.ofList (List.replicate (width - digits.length) '0') ++ digits

def yearText (y : Int) : String :=
  if 0 ≤ y ∧ y ≤ 9999 then pad 4 y.toNat
  else (if y < 0 then "-" else "+") ++ pad 4 y.natAbs

def text (d : Date) : String := yearText d.year ++ "-" ++ pad 2 d.month ++ "-" ++ pad 2 d.day

/-- Year and month, the label of a period in a chart. -/
def monthLabel (d : Date) : String := yearText d.year ++ "-" ++ pad 2 d.month

def digitsToNat (cs : List Char) : Nat := cs.foldl (fun n c => n * 10 + (c.toNat - '0'.toNat)) 0

/-- A number of one to `width` ASCII digits after optional blanks, and the rest. -/
def readNumber (width : Nat) (cs : List Char) : Option (Nat × List Char) :=
  let digits := ((cs.dropWhile Text.isBlank).takeWhile Char.isDigit).take width
  if digits.isEmpty then none
  else some (digitsToNat digits, (cs.dropWhile Text.isBlank).drop digits.length)

/-- A year is four digits, or a sign and any number of digits. -/
def readYear (cs : List Char) : Option (Int × List Char) :=
  match cs.dropWhile Text.isBlank with
  | '-' :: rest =>
    match rest with
    | c :: _ =>
      if c.isDigit then (readNumber rest.length rest).map fun (n, r) => (-(n : Int), r) else none
    | [] => none
  | '+' :: rest =>
    match rest with
    | c :: _ =>
      if c.isDigit then (readNumber rest.length rest).map fun (n, r) => ((n : Int), r) else none
    | [] => none
  | cs => (readNumber 4 cs).map fun (n, r) => ((n : Int), r)

def readDash (cs : List Char) : Option (List Char) :=
  match cs.dropWhile Text.isBlank with
  | '-' :: rest => some rest
  | _ => none

/-- Read a date. Blanks around the parts and missing leading zeros do not matter. -/
def read? (s : String) : Option Date := do
  let (year, cs) ← readYear s.toList
  let cs ← readDash cs
  let (month, cs) ← readNumber 2 cs
  let cs ← readDash cs
  let (day, cs) ← readNumber 2 cs
  if cs.all Text.isBlank then ofParts? year month day else none

end Date

end BankQuery
