import BankQuery.Calendar.Range
import BankQuery.Text.Pattern

/-!
# Time expressions

A question names its period in Spanish: a span of years, a quarter, a month, an open start, a number
of months, quarters or years back, or plain years. `resolve` tries the rules in that order and falls
back to the last twelve months. Relative expressions are counted from the anchor, never from a
clock, so that one instant always gives one range.
-/

namespace BankQuery

/-- The instant a question is asked: the day, and the latest month with data. -/
structure Anchor where
  today : Date
  latest : Date

/-- Without a known latest month the month before `today` is taken; later months than that of
`today` are not. -/
def Anchor.of (today : Date) (latest : Option Date) : Anchor :=
  let month := today.monthStart
  ⟨today, ((latest.map Date.monthStart).getD (month.shift (-1))).min month⟩

namespace Phrase

open Text Text.Pattern

inductive Rule where
  | yearRange
  | quarter
  | quarterShort
  | month
  | since
  | lastN
  | lastOne
  | yearToDate
  | years
  | defaultTrailing
deriving DecidableEq

def Rule.name : Rule → String
  | .yearRange => "year_range"
  | .quarter => "quarter"
  | .quarterShort => "quarter_short"
  | .month => "month"
  | .since => "since"
  | .lastN => "last_n"
  | .lastOne => "last_one"
  | .yearToDate => "year_to_date"
  | .years => "years"
  | .defaultTrailing => "default_trailing"

def monthNames : List (String × Nat) := [
  ("enero", 1), ("febrero", 2), ("marzo", 3), ("abril", 4), ("mayo", 5), ("junio", 6),
  ("julio", 7), ("agosto", 8), ("septiembre", 9), ("setiembre", 9), ("octubre", 10),
  ("noviembre", 11), ("diciembre", 12)]

def numberWords : List (String × Nat) := [
  ("dos", 2), ("tres", 3), ("cuatro", 4), ("cinco", 5), ("seis", 6), ("siete", 7), ("ocho", 8),
  ("nueve", 9), ("diez", 10), ("once", 11), ("doce", 12), ("veinticuatro", 24)]

def quarterWords : List (String × Nat) := [
  ("primer", 1), ("primero", 1), ("1er", 1), ("segundo", 2), ("2do", 2), ("tercer", 3),
  ("tercero", 3), ("3er", 3), ("cuarto", 4), ("4to", 4)]

def unitMonths : List (String × Nat) := [
  ("meses", 1), ("mes", 1), ("anos", 12), ("ano", 12), ("trimestres", 3), ("trimestre", 3)]

def decimal? (s : String) : Option Nat :=
  if !s.isEmpty && s.toList.all Char.isDigit then some (Date.digitsToNat s.toList) else none

def number? (s : String) : Option Nat := (decimal? s).or (numberWords.lookup s)

/-- A year of the twentieth or twenty-first century. -/
def year (label : String) : Pattern := keep label (anyOf ["19", "20"] ++ digit ++ digit)

def keepWord (label : String) (table : List (String × Nat)) : Pattern :=
  keep label (anyOf (table.map Prod.fst))

def optionalOf : Pattern := option (oneOf [literal "de" ++ blanks, literal "del" ++ blanks])

def yearRangePattern : Pattern :=
  boundary ++ year "from" ++ blanks ++ anyOf ["y", "a", "al", "hasta"] ++ blanks ++
    option (literal "el" ++ blanks) ++ year "to" ++ boundary

def quarterPattern : Pattern :=
  boundary ++ keepWord "quarter" quarterWords ++ blanks ++ literal "trimestre" ++ blanks ++
    optionalOf ++ year "year" ++ boundary

def quarterDigit : Pattern := keep "quarter" (.one fun c => '1' ≤ c && c ≤ '4')

/-- `q3 2024`, `t3 de 2024`. -/
def quarterBeforePattern : Pattern :=
  boundary ++ anyOf ["q", "t"] ++ quarterDigit ++ optionalBlanks ++ optionalOf ++ year "year" ++
    boundary

/-- `3t 2024`, the usual notation of Mexican reports. -/
def quarterOrdinalPattern : Pattern :=
  boundary ++ quarterDigit ++ optionalBlanks ++ char 't' ++ blanks ++ optionalOf ++ year "year" ++
    boundary

/-- `2024q3`. -/
def quarterAfterPattern : Pattern :=
  boundary ++ year "year" ++ optionalBlanks ++ char 'q' ++ quarterDigit ++ boundary

def monthPattern : Pattern :=
  boundary ++ keepWord "month" monthNames ++ blanks ++ optionalOf ++ year "year" ++ boundary

def sincePattern : Pattern :=
  boundary ++ literal "desde" ++ blanks ++ option (literal "el" ++ blanks) ++
    option (keepWord "month" monthNames ++ blanks ++ optionalOf) ++ year "year" ++ boundary

def lastNPattern : Pattern :=
  boundary ++ literal "ultim" ++ anyOf ["o", "a"] ++ char 's' ++ blanks ++
    keep "number" (oneOf [shortNumber, anyOf (numberWords.map Prod.fst)]) ++ blanks ++
    keepWord "unit" unitMonths ++ boundary

def lastOnePattern : Pattern :=
  boundary ++ literal "ultim" ++ anyOf ["o", "a"] ++ blanks ++
    keep "unit" (anyOf ["mes", "ano", "trimestre"]) ++ boundary

def phrase (words : List String) : Pattern :=
  (words.map literal).tail.foldl (fun p w => p ++ blanks ++ w) (literal (words.headD ""))

def yearToDatePattern : Pattern :=
  boundary ++ oneOf [phrase ["este", "ano"], phrase ["ano", "en", "curso"],
    phrase ["en", "lo", "que", "va", "del", "ano"]] ++ boundary

def bareYearPattern : Pattern := boundary ++ year "year" ++ boundary

def yearOf? (m : Found) (label : String) : Option Int := do
  return ((← decimal? (← m.piece? label)) : Int)

def yearRange? (s : String) : Option DateRange := do
  let m ← yearRangePattern.find s
  DateRange.ofYears? (← yearOf? m "from") (← yearOf? m "to")

def quarter? (s : String) : Option DateRange := do
  let m ← quarterPattern.find s
  DateRange.ofQuarter? (← yearOf? m "year") (← quarterWords.lookup (← m.piece? "quarter"))

/-- The first notation that occurs decides. -/
def quarterShort? (s : String) : Option DateRange := do
  let m ← (quarterBeforePattern.find s).or
    ((quarterOrdinalPattern.find s).or (quarterAfterPattern.find s))
  DateRange.ofQuarter? (← yearOf? m "year") (← decimal? (← m.piece? "quarter"))

/-- A month with its year, unless it opens a range. -/
def month? (s : String) : Option DateRange := do
  if sincePattern.occursIn s then none
  else
    let m ← monthPattern.find s
    DateRange.ofMonth? (← yearOf? m "year") (← monthNames.lookup (← m.piece? "month"))

def since? (a : Anchor) (s : String) : Option DateRange := do
  let m ← sincePattern.find s
  let month ← match m.piece? "month" with
    | some name => monthNames.lookup name
    | none => some 1
  let start ← Date.ofParts? (← yearOf? m "year") month 1
  return DateRange.ofEnds start (a.latest.max start)

def lastN? (a : Anchor) (s : String) : Option DateRange := do
  let m ← lastNPattern.find s
  let n ← number? (← m.piece? "number")
  let unit ← unitMonths.lookup (← m.piece? "unit")
  return DateRange.trailing a.latest (UInt32.ofNat (Nat.max n 1 * unit))

def lastOne? (a : Anchor) (s : String) : Option DateRange := do
  let m ← lastOnePattern.find s
  return DateRange.trailing a.latest (UInt32.ofNat (← unitMonths.lookup (← m.piece? "unit")))

def yearToDate? (a : Anchor) (s : String) : Option DateRange := do
  if yearToDatePattern.occursIn s then
    return DateRange.ofEnds (← Date.ofParts? a.latest.year 1 1) a.latest
  else none

def yearsIn (s : String) : List Int := (bareYearPattern.findAll s).filterMap (yearOf? · "year")

def years? (s : String) : Option DateRange :=
  match yearsIn s with
  | [] => none
  | y :: ys => DateRange.ofYears? (ys.foldl Min.min y) (ys.foldl Max.max y)

structure Resolution where
  range : DateRange
  rule : Rule
deriving DecidableEq

def Resolution.explicit (r : Resolution) : Bool := r.rule != .defaultTrailing

def rules (a : Anchor) : List (Rule × (String → Option DateRange)) := [
  (.yearRange, yearRange?), (.quarter, quarter?), (.quarterShort, quarterShort?),
  (.month, month?), (.since, since? a), (.lastN, lastN? a), (.lastOne, lastOne? a),
  (.yearToDate, yearToDate? a), (.years, years?)]

/-- Months covered when the text names no period. -/
def defaultMonths : UInt32 := 12

def resolve (a : Anchor) (s : String) : Resolution :=
  match (rules a).findSome? fun (rule, apply) => (apply s).map (Resolution.mk · rule) with
  | some r => r
  | none => ⟨DateRange.trailing a.latest defaultMonths, .defaultTrailing⟩

end Phrase

end BankQuery
