import Mathlib.Data.List.Nodup
import BankQuery.Proofs.Calendar.Span
import BankQuery.Proofs.Calendar.Trailing

/-!
# Ranges counted from the anchor

An anchor is the latest month with data, which is not behind the month of today. Ranges of the last
months, of the last unit and of the year so far end at it, and so does the range of a text in which
no rule finds one; an open start reaches up to it. `Phrase.stretch?` and `Phrase.openStart?` read the
number and unit of a stretch and the month and year of a start word by word, apart from the patterns.
`Phrase.resolve_anchored` says what the range of a text is in terms of these.
-/

namespace BankQuery

namespace Phrase

open Text Text.Pattern

def isNumberWord (w : List Char) : Bool :=
  isNumber 3 w || ((numberWords.map Prod.fst).map String.toList).contains w

def isUnitWord (w : List Char) : Bool := ((unitMonths.map Prod.fst).map String.toList).contains w

def isMonthWord (w : List Char) : Bool := ((monthNames.map Prod.fst).map String.toList).contains w

/-- The number and the unit of a stretch that a text begins with: `ultimos 3 meses`. -/
def stretchWords? : List Char → Option (List Char × List Char) :=
  behindWord? ["ultimos", "ultimas"] fun cs => (word? isNumberWord cs).bind fun number =>
    ((behindBlanks? (behindWord cs)).bind (word? isUnitWord)).map fun unit => (number, unit)

def monthYear? (cs : List Char) : Option (Option (List Char) × List Char) :=
  ((word? isMonthWord cs).bind fun month =>
    ((behindBlanks? (behindWord cs)).bind (perhapsBehind? ["de", "del"] firstYear?)).map
      fun year => (some month, year)).or ((firstYear? cs).map fun year => (none, year))

/-- The month, if one is named, and the year of an open start: `desde marzo de 2024`. -/
def startWords? : List Char → Option (Option (List Char) × List Char) :=
  behindWord? ["desde"] (perhapsBehind? ["el"] monthYear?)

theorem readsWord_number :
    ReadsWord (oneOf [shortNumber, anyOf (numberWords.map Prod.fst)]) isNumberWord := by
  have hdigits : ReadsDigits (Pattern.option (digit ++ Pattern.option digit)) 2 :=
    (ReadsDigits.option readsDigits_empty).option
  exact hdigits.readsWord.either (readsWord_anyOf (by decide))

/-- Both spellings are one word each. -/
theorem run_ultimos {α : Type} (s : Place) (k : Place → Option α) :
    ((literal "ultim").run s fun t => (anyOf ["o", "a"]).run t fun t => (char 's').run t k) =
      (anyOf ["ultimos", "ultimas"]).run s k := by
  have hletter (word : String) (t : Place) : ((literal word).run t fun t => (char 's').run t k) =
      (literal (word ++ "s")).run t k := (run_literal_append word "s").symm
  have hstem (t : Place) : ((anyOf ["o", "a"]).run t fun t => (char 's').run t k) =
      ((literal "os").run t k).or ((literal "as").run t k) := by
    refine (run_either (literal "o") (literal "a")).trans ?_
    rw [hletter, hletter]
    rfl
  simp only [hstem]
  rw [run_literal_or, ← run_literal_append, ← run_literal_append]
  exact (run_either (literal "ultimos") (literal "ultimas")).symm

/-- What the pattern of a stretch does from the number on. -/
def runNumber (t : Place) : Option Place :=
  (Pattern.keep "number" (oneOf [shortNumber, anyOf (numberWords.map Prod.fst)])).run t fun t =>
    blanks.run t fun t => (keepWord "unit" unitMonths).run t fun t => boundary.run t some

theorem takes_stretch :
    Takes (fun t => (anyOf ["ultimos", "ultimas"]).run t fun t => blanks.run t runNumber)
      stretchWords? fun words => [("unit", words.2), ("number", words.1)] := by
  have hunit : Takes (fun t => (keepWord "unit" unitMonths).run t fun t => boundary.run t some)
      (word? isUnitWord) fun w => [("unit", w)] :=
    takes_last (readsWord_anyOf (by decide)) "unit" rfl
  have hnumber := (hunit.behindBlanks fun cs h => by rw [word?, h]; rfl).keep readsWord_number
    "number" fun cs h => by rw [behindBlanks?_of_isWordChar h]; rfl
  exact hnumber.behindWord? ["ultimos", "ultimas"] (by decide) fun cs h => by rw [word?, h]; rfl

theorem find_lastN (s : String) :
    (lastNPattern.find s).map (·.stop.kept) = (firstAt? stretchWords? s.toList).map
      fun words => [("unit", words.2), ("number", words.1)] := by
  have hrun (s : Place) : lastNPattern.run s some = boundary.run s fun t =>
      (literal "ultim").run t fun t => (anyOf ["o", "a"]).run t fun t => (char 's').run t fun t =>
        blanks.run t runNumber := rfl
  simp only [run_ultimos] at hrun
  exact takes_stretch.find hrun (fun cs h => if_neg (by rw [h]; decide)) s

theorem run_optionalOf {α : Type} (s : Place) (k : Place → Option α) :
    optionalOf.run s k = (Pattern.option (anyOf ["de", "del"] ++ blanks)).run s k := by
  have hboth : (oneOf [literal "de" ++ blanks, literal "del" ++ blanks]).run s k =
      (anyOf ["de", "del"]).run s fun t => blanks.run t k :=
    (run_either _ _).trans (run_either (literal "de") (literal "del")).symm
  have hoption : optionalOf.run s k =
      ((oneOf [literal "de" ++ blanks, literal "del" ++ blanks]).run s k).or (k s) := run_either _ _
  rw [hoption, hboth]
  exact (run_either (anyOf ["de", "del"] ++ blanks) .empty).symm

def runYear (t : Place) : Option Place := (year "year").run t fun t => boundary.run t some

def runMonth (t : Place) : Option Place :=
  (Pattern.option (keepWord "month" monthNames ++ blanks ++ optionalOf)).run t runYear

def startPieces (words : Option (List Char) × List Char) : List (String × List Char) :=
  ("year", words.2) :: words.1.toList.map fun month => ("month", month)

theorem takes_runMonth : Takes runMonth monthYear? startPieces := by
  have hyear : Takes runYear firstYear? fun w => [("year", w)] := takes_lastYear "year"
  have hof : Takes (fun t => optionalOf.run t runYear) (perhapsBehind? ["de", "del"] firstYear?)
      fun w => [("year", w)] := by
    simp only [run_optionalOf]
    exact hyear.perhapsBehind? ["de", "del"] (by decide) fun _ => firstYear?_of_nil
  have hmonths : ReadsWord (anyOf (monthNames.map Prod.fst)) isMonthWord :=
    readsWord_anyOf (by decide)
  have hmonth := (hof.behindBlanks fun cs h => by
    rw [perhapsBehind?, behindWord?, h, firstYear?_of_nil h]; rfl).keep hmonths "month"
      fun cs h => by rw [behindBlanks?_of_isWordChar h]; rfl
  have hor := Takes.or (hmonth.map (fun a => (some a.1, a.2)) startPieces fun _ => rfl)
    (hyear.map (fun w => (none, w)) startPieces fun _ => rfl)
  intro t
  have hrun : runMonth t = ((keepWord "month" monthNames).run t fun t => blanks.run t fun t =>
      optionalOf.run t runYear).or (runYear t) := run_either _ _
  rw [hrun, monthYear?]
  refine (hor t).trans ?_
  simp only [Option.map_bind, Option.map_map, Function.comp_def]

theorem monthYear?_of_nil {cs : List Char} (h : wordOf cs = []) : monthYear? cs = none := by
  rw [monthYear?, firstYear?_of_nil h, word?, h]
  rfl

theorem find_since (s : String) : (sincePattern.find s).map (·.stop.kept) =
    (firstAt? startWords? s.toList).map startPieces := by
  have hel := takes_runMonth.perhapsBehind? ["el"] (by decide) fun _ => monthYear?_of_nil
  have hdesde := hel.behindWord? ["desde"] (by decide) fun cs h => by
    rw [perhapsBehind?, behindWord?, h, monthYear?_of_nil h]; rfl
  exact hdesde.find (fun _ => rfl) (fun cs h => if_neg (by rw [h]; decide)) s

/-- The first stretch of a text: how many units, and how many months each. -/
def stretch? (s : String) : Option (Nat × Nat) :=
  (firstAt? stretchWords? s.toList).bind fun (number, unit) =>
    (number? (String.ofList number)).bind fun n =>
      (unitMonths.lookup (String.ofList unit)).map fun months => (n, months)

def monthNumber? : Option (List Char) → Option Nat
  | none => some 1
  | some name => monthNames.lookup (String.ofList name)

def openStart? (s : String) : Option (Nat × Int) :=
  (firstAt? startWords? s.toList).bind fun (month, year) =>
    (monthNumber? month).bind fun n => (writtenYear? year).map fun y => (n, y)

theorem snd_of_lookup {α β : Type} [BEq α] [LawfulBEq α] {p : β → Prop} {table : List (α × β)}
    (hp : ∀ e ∈ table, p e.2) {a : α} {b : β} (h : table.lookup a = some b) : p b := by
  obtain ⟨before, after, rfl, -⟩ := List.lookup_eq_some_iff.mp h
  exact hp (a, b) (by simp)

theorem number?_le {w : List Char} {n : Nat} (hw : isNumberWord w = true)
    (h : number? (String.ofList w) = some n) : n ≤ 999 := by
  have hnames : ∀ e ∈ numberWords, e.2 ≤ 999 := by decide
  have hne : w ≠ [] := fun he => by simp [he, isNumberWord, isNumber, numberWords] at hw
  rcases Option.or_eq_some_iff.mp h with h | ⟨-, h⟩
  · rw [decimal?_ofList hne] at h
    split at h
    · rename_i hdigits
      cases h
      rcases Bool.or_eq_true_iff.mp hw with hshort | htable
      · have hlength : w.length ≤ 3 := by
          simp only [isNumber, Bool.and_eq_true, decide_eq_true_eq] at hshort
          exact hshort.1.2
        have hpow : 10 ^ w.length ≤ 10 ^ 3 := Nat.pow_le_pow_right (by decide) hlength
        exact Nat.le_of_lt_succ (Nat.lt_of_lt_of_le (Date.digitsToNat_lt hdigits) hpow)
      · have hletters : ∀ word ∈ (numberWords.map Prod.fst).map String.toList,
            word.all Char.isDigit = false := by decide
        rw [hletters w (List.contains_iff_mem.mp htable)] at hdigits
        cases hdigits
    · cases h
  · exact snd_of_lookup (p := (· ≤ 999)) hnames h

/-- The number has at most three digits, or is a word, and the unit is one of three. -/
theorem bounds_of_stretch? {s : String} {n months : Nat} (h : stretch? s = some (n, months)) :
    n ≤ 999 ∧ (months = 1 ∨ months = 3 ∨ months = 12) := by
  obtain ⟨⟨number, unit⟩, hwords, h⟩ := Option.bind_eq_some_iff.mp h
  obtain ⟨n', hn, h⟩ := Option.bind_eq_some_iff.mp h
  obtain ⟨months', hmonths, h⟩ := Option.map_eq_some_iff.mp h
  cases h
  obtain ⟨rest, hwords⟩ := of_firstAt? hwords
  obtain ⟨rest, hwords⟩ := of_behindWord? hwords
  obtain ⟨number', hnumber, hwords⟩ := Option.bind_eq_some_iff.mp hwords
  obtain ⟨unit', -, h⟩ := Option.map_eq_some_iff.mp hwords
  cases h
  have hunits : ∀ e ∈ unitMonths, e.2 = 1 ∨ e.2 = 3 ∨ e.2 = 12 := by decide
  exact ⟨number?_le (of_word? hnumber) hn,
    snd_of_lookup (p := fun n => n = 1 ∨ n = 3 ∨ n = 12) hunits hmonths⟩

theorem isYearWord_of_startWords? {cs : List Char} {month : Option (List Char)} {year : List Char}
    (h : startWords? cs = some (month, year)) : isYearWord year = true := by
  obtain ⟨rest, h⟩ := of_behindWord? h
  obtain ⟨rest, h⟩ := of_perhapsBehind? h
  rcases Option.or_eq_some_iff.mp h with h | ⟨-, h⟩
  · obtain ⟨name, -, h⟩ := Option.bind_eq_some_iff.mp h
    obtain ⟨year', h, he⟩ := Option.map_eq_some_iff.mp h
    cases he
    obtain ⟨rest, -, h⟩ := Option.bind_eq_some_iff.mp h
    obtain ⟨rest, h⟩ := of_perhapsBehind? h
    exact of_word? h
  · obtain ⟨year', h, he⟩ := Option.map_eq_some_iff.mp h
    cases he
    exact of_word? h

theorem lastN?_eq (a : Anchor) (s : String) : lastN? a s = (stretch? s).map fun (n, months) =>
    DateRange.trailing a.latest (UInt32.ofNat (Nat.max n 1 * months)) := by
  rw [stretch?, lastN?]
  rcases find_cases (find_lastN s) with ⟨hm, hnone⟩ | ⟨m, ⟨number, unit⟩, hm, hwords, hkept⟩
  · rw [hm, hnone]
    rfl
  · have hnumber : m.piece? "number" = some (String.ofList number) := by
      rw [Found.piece?, hkept]
      rfl
    have hunit : m.piece? "unit" = some (String.ofList unit) := by
      rw [Found.piece?, hkept]
      rfl
    rw [hm, hwords]
    simp only [Option.bind_eq_bind, Option.bind_some, hnumber, hunit]
    cases number? (String.ofList number) with
    | none => rfl
    | some n => cases unitMonths.lookup (String.ofList unit) <;> rfl

theorem since?_eq (a : Anchor) (s : String) : since? a s = (openStart? s).bind fun (month, year) =>
    (Date.ofParts? year month 1).map fun start => DateRange.ofEnds start (a.latest.max start) := by
  rw [openStart?, since?]
  rcases find_cases (find_since s) with ⟨hm, hnone⟩ | ⟨m, ⟨month, year⟩, hm, hwords, hkept⟩
  · rw [hm, hnone]
    rfl
  · obtain ⟨rest, hread⟩ := of_firstAt? hwords
    have hyear : yearOf? m "year" = writtenYear? year :=
      yearOf?_eq (isYearWord_of_startWords? hread) (by rw [hkept]; rfl)
    have hmonth : m.piece? "month" = month.map String.ofList := by
      rw [Found.piece?, hkept]
      cases month <;> rfl
    have hstart (n : Nat) : ((writtenYear? year).bind fun y =>
        (Date.ofParts? y n 1).bind fun start =>
          some (DateRange.ofEnds start (a.latest.max start))) =
          ((writtenYear? year).map fun y => (n, y)).bind fun (month, year) =>
            (Date.ofParts? year month 1).map fun start =>
              DateRange.ofEnds start (a.latest.max start) := by
      cases writtenYear? year with
      | none => rfl
      | some y =>
        dsimp only [Option.map_some, Option.bind_some]
        cases Date.ofParts? y n 1 <;> rfl
    rw [hm, hwords]
    simp only [Option.bind_eq_bind, Option.bind_some, hyear, hmonth]
    cases month with
    | none => exact hstart 1
    | some name =>
      rw [monthNumber?]
      dsimp only [Option.map_some]
      cases monthNames.lookup (String.ofList name) with
      | none => rfl
      | some n => exact hstart n

section Anchored

variable {a : Anchor} {s : String} {r : DateRange}

theorem map_fst_rules (a : Anchor) : (rules a).map Prod.fst = [.yearRange, .quarter, .quarterShort,
    .month, .since, .lastN, .lastOne, .yearToDate, .years] := rfl

theorem defaultTrailing_not_mem (a : Anchor) : Rule.defaultTrailing ∉ (rules a).map Prod.fst := by
  rw [map_fst_rules]
  decide

/-- The rule that is reported gives the range. -/
theorem eq_some_of_rule {rule : Rule} {apply : String → Option DateRange}
    (hm : (rule, apply) ∈ rules a) (h : (resolve a s).rule = rule) :
    apply s = some (resolve a s).range := by
  have hrule : rule ∈ (rules a).map Prod.fst := List.mem_map_of_mem hm
  rcases resolve_cases a s with ⟨apply', hm', hr⟩ | hr
  · rw [h] at hm'
    have hnodup : ((rules a).map Prod.fst).Nodup := by
      rw [map_fst_rules]
      decide
    have he := List.inj_on_of_nodup_map hnodup hm hm' rfl
    cases he
    exact hr
  · rw [← h, hr] at hrule
    exact absurd hrule (defaultTrailing_not_mem a)

theorem range_of_default (h : (resolve a s).rule = .defaultTrailing) :
    (resolve a s).range = DateRange.trailing a.latest defaultMonths := by
  rcases resolve_cases a s with ⟨apply, hm, -⟩ | hr
  · have hrule : (resolve a s).rule ∈ (rules a).map Prod.fst := List.mem_map_of_mem hm
    rw [h] at hrule
    exact absurd hrule (defaultTrailing_not_mem a)
  · rw [hr]

theorem toNat_word {n : Nat} (hn : n ≤ 11988) : (UInt32.ofNat n).toNat = n :=
  UInt32.toNat_ofNat_of_lt' (Nat.lt_of_le_of_lt hn (by decide))

theorem stop_trailing {d : Date} (hd : d.day = 1) {n : Nat} (hn : n ≤ 11988) :
    (DateRange.trailing d (UInt32.ofNat n)).stop = d := by
  have hall := d.monthsUpTo_add_monthsAfter
  have hword := toNat_word hn
  rw [(DateRange.stop_trailing_iff d (UInt32.ofNat n)).mpr (by omega), Date.monthStart_of_day hd]

variable (ha : a.latest.day = 1)

include ha

theorem stop_lastN? (h : lastN? a s = some r) : ∃ n months, stretch? s = some (n, months) ∧
    (months = 1 ∨ months = 3 ∨ months = 12) ∧ r.stop = a.latest ∧
    (max n 1 * months ≤ a.latest.monthsUpTo → r.monthCount = max n 1 * months) := by
  rw [lastN?_eq] at h
  obtain ⟨⟨n, months⟩, hs, hr⟩ := Option.map_eq_some_iff.mp h
  obtain ⟨hn, hmonths⟩ := bounds_of_stretch? hs
  have hle : max n 1 * months ≤ 999 * 12 := Nat.mul_le_mul (by omega) (by omega)
  have hpos : 1 ≤ max n 1 * months := Nat.mul_pos (by omega) (by omega)
  cases hr
  refine ⟨n, months, hs, hmonths, stop_trailing ha hle, fun h => ?_⟩
  have hcount := DateRange.monthCount_trailing a.latest (UInt32.ofNat (max n 1 * months))
  rw [toNat_word hle, Nat.max_eq_left hpos] at hcount
  exact hcount h

theorem stop_lastOne? (h : lastOne? a s = some r) : r.stop = a.latest := by
  simp only [lastOne?, Option.bind_eq_bind, Option.bind_eq_some_iff] at h
  obtain ⟨m, -, unit, -, months, hmonths, hr⟩ := h
  have hunits : ∀ e ∈ unitMonths, e.2 ≤ 12 := by decide
  have hle : months ≤ 12 := snd_of_lookup (p := (· ≤ 12)) hunits hmonths
  cases hr
  exact stop_trailing ha (by omega)

theorem stop_yearToDate? (h : yearToDate? a s = some r) : r.stop = a.latest := by
  simp only [yearToDate?, Option.bind_eq_bind] at h
  split at h
  · obtain ⟨start, hstart, hr⟩ := Option.bind_eq_some_iff.mp h
    obtain ⟨hyear, hmonth, hday⟩ := Date.of_ofParts? hstart
    have hlatest := a.latest.month_mem
    cases hr
    rw [DateRange.ofEnds_of_le hday ha]
    unfold Date.monthIndex
    omega
  · cases h

theorem start_since? (h : since? a s = some r) : ∃ start : Date,
    openStart? s = some (start.month, start.year) ∧ start.day = 1 ∧
      r = ⟨start, a.latest.max start⟩ := by
  rw [since?_eq] at h
  obtain ⟨⟨month, year⟩, hs, h⟩ := Option.bind_eq_some_iff.mp h
  obtain ⟨start, hstart, hr⟩ := Option.map_eq_some_iff.mp h
  obtain ⟨hyear, hmonth, hday⟩ := Date.of_ofParts? hstart
  refine ⟨start, by rw [hyear, hmonth]; exact hs, hday, ?_⟩
  rw [← hr]
  unfold Date.max
  split
  · exact DateRange.ofEnds_of_le hday hday (Int.le_refl _)
  · rename_i hle
    rw [Date.le_iff_monthIndex ha hday] at hle
    exact DateRange.ofEnds_of_le hday ha (by omega)

end Anchored

end Phrase

section Latest

variable (today : Date) (latest : Option Date)

theorem Anchor.latest_day : (Anchor.of today latest).latest.day = 1 := by
  have hmonth : ((latest.map Date.monthStart).getD (today.monthStart.shift (-1))).day = 1 := by
    cases latest with
    | none => exact Date.shift_day rfl (-1)
    | some d => rfl
  unfold Anchor.of Date.min
  dsimp only
  split
  · exact hmonth
  · rfl

theorem Anchor.latest_le : (Anchor.of today latest).latest ≤ today.monthStart := by
  unfold Anchor.of Date.min
  dsimp only
  split
  · assumption
  · exact Int.le_refl _

end Latest

namespace Phrase

/-- For an anchor that is set, every text gives a range of whole months, and the latest month with
data is not behind that of today. Where the range is counted from the anchor it ends at the latest
month, and a stretch of so many units has so many times their months if the calendar does; an open
start reaches from the month named, of January if there is only a year, to the latest month or its
own. -/
theorem resolve_anchored {a : Anchor} {today : Date} {latest : Option Date}
    (ha : a = Anchor.of today latest) (s : String) :
    (resolve a s).range.IsMonthly ∧ a.latest ≤ today.monthStart ∧
    ((resolve a s).rule ∈ [.lastN, .lastOne, .yearToDate, .defaultTrailing] →
      (resolve a s).range.stop = a.latest) ∧
    ((resolve a s).rule = .lastN → ∃ n months, stretch? s = some (n, months) ∧
      (months = 1 ∨ months = 3 ∨ months = 12) ∧
      (max n 1 * months ≤ a.latest.monthsUpTo →
        (resolve a s).range.monthCount = max n 1 * months)) ∧
    ((resolve a s).rule = .since → ∃ start : Date,
      openStart? s = some (start.month, start.year) ∧ start.day = 1 ∧
        (resolve a s).range = ⟨start, a.latest.max start⟩) := by
  have hday : a.latest.day = 1 := ha ▸ Anchor.latest_day today latest
  have hle : a.latest ≤ today.monthStart := ha ▸ Anchor.latest_le today latest
  have hrule {rule : Rule} {apply : String → Option DateRange} (hm : (rule, apply) ∈ rules a)
      (h : (resolve a s).rule = rule) : apply s = some (resolve a s).range := eq_some_of_rule hm h
  refine ⟨isMonthly_resolve a s, hle, fun h => ?_, fun h => ?_, fun h => ?_⟩
  · simp only [List.mem_cons, List.not_mem_nil, or_false] at h
    rcases h with h | h | h | h
    · obtain ⟨n, months, -, -, hstop, -⟩ := stop_lastN? hday (hrule (by simp [rules]) h)
      exact hstop
    · exact stop_lastOne? hday (hrule (by simp [rules]) h)
    · exact stop_yearToDate? hday (hrule (by simp [rules]) h)
    · rw [range_of_default h]
      exact stop_trailing (n := 12) hday (by decide)
  · obtain ⟨n, months, hs, hunit, -, hcount⟩ := stop_lastN? hday (hrule (by simp [rules]) h)
    exact ⟨n, months, hs, hunit, hcount⟩
  · exact start_since? hday (hrule (by simp [rules]) h)

def midAugust : Anchor := Anchor.of ⟨2026, 8, 14, by decide, by decide, by decide⟩ none

theorem resolve_anchored_quarters : (resolve midAugust "imor ultimos 0 trimestres").rule = .lastN ∧
    (resolve midAugust "imor ultimos 0 trimestres").range.stop = midAugust.latest ∧
    (resolve midAugust "imor ultimos 0 trimestres").range.monthCount = 3 ∧
    (resolve midAugust "desde el octubre de 2026").rule = .since ∧
    ∃ start : Date, start.year = 2026 ∧ start.month = 10 ∧
      (resolve midAugust "desde el octubre de 2026").range = ⟨start, start⟩ := by
  have hlast : (resolve midAugust "imor ultimos 0 trimestres").rule = .lastN := by decide +kernel
  have hsince : (resolve midAugust "desde el octubre de 2026").rule = .since := by decide +kernel
  have hstretch : stretch? "imor ultimos 0 trimestres" = some (0, 3) := by decide +kernel
  have hopen : openStart? "desde el octubre de 2026" = some (10, 2026) := by decide +kernel
  obtain ⟨-, -, hstop, hstretches, -⟩ :=
    resolve_anchored (a := midAugust) rfl "imor ultimos 0 trimestres"
  obtain ⟨-, -, -, -, hopens⟩ := resolve_anchored (a := midAugust) rfl "desde el octubre de 2026"
  obtain ⟨n, months, hs, -, hcount⟩ := hstretches hlast
  obtain ⟨start, hs', hday, hrange⟩ := hopens hsince
  rw [hstretch] at hs
  rw [hopen] at hs'
  cases hs
  injection hs' with hs'
  obtain ⟨hmonth, hyear⟩ := Prod.mk.inj hs'
  have hlatest : midAugust.latest.day = 1 := rfl
  have hindex : start.monthIndex = 24321 := by
    rw [Date.monthIndex, ← hmonth, ← hyear]
    rfl
  refine ⟨hlast, hstop (by rw [hlast]; decide), hcount (by decide), hsince, start, hyear.symm,
    hmonth.symm, ?_⟩
  rw [hrange, Date.max, if_pos]
  rw [Date.le_iff_monthIndex hlatest hday, hindex]
  decide

end Phrase

end BankQuery
