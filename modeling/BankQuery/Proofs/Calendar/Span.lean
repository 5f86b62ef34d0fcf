import BankQuery.Proofs.Calendar.Months
import BankQuery.Proofs.Calendar.Years

/-!
# The span of years

Two years may be joined: by `y`, `a`, `al` or `hasta`, with blanks on both sides and perhaps an
article before the second. The first two that are joined decide alone, before any rule looks at
the other years. Where no rule but these two finds anything, `Phrase.resolve_years` says when all
years of the text are in the range.
-/

namespace BankQuery

namespace Phrase

open Text Text.Pattern

def joints : List String := ["y", "a", "al", "hasta"]

def firstYear? (cs : List Char) : Option (List Char) :=
  if isYearWord (wordOf cs) = true then some (wordOf cs) else none

def articleYear? (cs : List Char) : Option (List Char) :=
  if wordOf cs = "el".toList then (behindBlanks? (behindWord cs)).bind firstYear? else firstYear? cs

/-- The year that is joined to what stands before the text. -/
def joinedYear? (cs : List Char) : Option (List Char) :=
  (behindBlanks? cs).bind fun joint =>
    if wordOf joint ∈ joints.map String.toList then
      (behindBlanks? (behindWord joint)).bind articleYear?
    else none

def joined? (cs : List Char) : Option (List Char × List Char) :=
  (firstYear? cs).bind fun first => (joinedYear? (behindWord cs)).map fun last => (first, last)

section Runs

/-- The pattern of joined years from the second year on. -/
def runLast (t : Place) : Option Place := (year "to").run t fun t => boundary.run t some

def runArticle (t : Place) : Option Place := (option (literal "el" ++ blanks)).run t runLast

def runJoint (t : Place) : Option Place :=
  blanks.run t fun t => (anyOf joints).run t fun t => blanks.run t runArticle

theorem firstYear?_of_nil {cs : List Char} (h : wordOf cs = []) : firstYear? cs = none := by
  rw [firstYear?, h]
  rfl

theorem articleYear?_of_nil {cs : List Char} (h : wordOf cs = []) : articleYear? cs = none := by
  rw [articleYear?, h, if_neg (by decide)]
  exact firstYear?_of_nil h

theorem perhapsBehind?_firstYear : perhapsBehind? ["el"] firstYear? = articleYear? := by
  funext cs
  rw [perhapsBehind?, behindWord?_eq, articleYear?]
  have hmem : wordOf cs ∈ ["el"].map String.toList ↔ wordOf cs = "el".toList := List.mem_singleton
  by_cases hel : wordOf cs = "el".toList
  · have hno : firstYear? cs = none := by
      rw [firstYear?, hel]
      rfl
    rw [if_pos (hmem.mpr hel), if_pos hel, hno, Option.or_none]
  · rw [if_neg fun h => hel (hmem.mp h), if_neg hel, Option.none_or]

theorem takes_lastYear (label : String) :
    Takes (fun t => (year label).run t fun t => boundary.run t some) firstYear?
      fun w => [(label, w)] :=
  takes_last readsWord_year label rfl

theorem takes_runArticle : Takes runArticle articleYear? fun w => [("to", w)] := by
  rw [← perhapsBehind?_firstYear]
  exact (takes_lastYear "to").perhapsBehind? ["el"] (by decide) fun _ => firstYear?_of_nil

theorem joinedYear?_eq :
    joinedYear? = fun cs => (behindBlanks? cs).bind (behindWord? joints articleYear?) := by
  funext cs
  simp only [joinedYear?, ← behindWord?_eq]

theorem takes_runJoint : Takes runJoint joinedYear? fun w => [("to", w)] := by
  rw [joinedYear?_eq]
  refine (takes_runArticle.behindWord? joints (by decide) fun _ =>
    articleYear?_of_nil).behindBlanks fun cs h => ?_
  rw [behindWord?, h]
  rfl

/-- The pattern of joined years keeps what the word-by-word reading gives. -/
theorem takes_yearRange : Takes (fun t => (year "from").run t runJoint) joined?
    fun years => [("to", years.2), ("from", years.1)] :=
  takes_runJoint.keep readsWord_year "from" fun cs h => by
    rw [joinedYear?, behindBlanks?_of_isWordChar h]
    rfl

end Runs

def firstJoined? (cs : List Char) : Option (List Char × List Char) :=
  (List.range (cs.length + 1)).findSome? fun i =>
    if (cs.take i).getLast?.any isWordChar = true then none else joined? (cs.drop i)

/-- The first two years of a text that are joined, if they are written in the digits of ASCII. -/
def joinedYears? (s : String) : Option (Int × Int) :=
  (firstJoined? s.toList).bind fun (first, last) =>
    (writtenYear? first).bind fun x => (writtenYear? last).map fun y => (x, y)

section Members

variable {cs : List Char} {w : List Char}

def IsYearOf (cs w : List Char) : Prop := isYearWord w = true ∧ w ∈ runs isWordChar cs

theorem IsYearOf.of_behindWord (h : IsYearOf (behindWord cs) w) : IsYearOf cs w := by
  refine ⟨h.1, ?_⟩
  by_cases hne : cs.takeWhile isWordChar = []
  · have hcut := wordOf_append_behindWord cs
    rw [wordOf, hne, List.nil_append] at hcut
    exact hcut ▸ h.2
  · rw [runs_eq_cons hne]
    exact List.mem_cons_of_mem _ h.2

theorem IsYearOf.of_behindBlanks? {rest : List Char} (hr : behindBlanks? cs = some rest)
    (h : IsYearOf rest w) : IsYearOf cs w := by
  unfold behindBlanks? at hr
  split at hr
  · cases hr
    refine ⟨h.1, ?_⟩
    rw [← runs_dropWhile fun _ => not_isWordChar_of_isBlank]
    exact h.2
  · cases hr

theorem isYearOf_of_firstYear? (h : firstYear? cs = some w) : IsYearOf cs w := by
  unfold firstYear? at h
  split at h
  · rename_i hy
    cases h
    refine ⟨hy, ?_⟩
    have hne : cs.takeWhile isWordChar ≠ [] := (isWordChar_of_isYearWord hy).1
    rw [runs_eq_cons hne]
    exact List.mem_cons_self
  · cases h

theorem isYearOf_of_articleYear? (h : articleYear? cs = some w) : IsYearOf cs w := by
  unfold articleYear? at h
  split at h
  · obtain ⟨rest, hrest, h⟩ := Option.bind_eq_some_iff.mp h
    exact ((isYearOf_of_firstYear? h).of_behindBlanks? hrest).of_behindWord
  · exact isYearOf_of_firstYear? h

theorem isYearOf_of_joined? {first last : List Char} (h : joined? cs = some (first, last)) :
    IsYearOf cs first ∧ IsYearOf cs last := by
  obtain ⟨first', hfirst, h⟩ := Option.bind_eq_some_iff.mp h
  obtain ⟨last', hlast, he⟩ := Option.map_eq_some_iff.mp h
  cases he
  refine ⟨isYearOf_of_firstYear? hfirst, ?_⟩
  obtain ⟨joint, hjoint, h⟩ := Option.bind_eq_some_iff.mp hlast
  split at h
  · obtain ⟨rest, hrest, h⟩ := Option.bind_eq_some_iff.mp h
    have hyear := ((isYearOf_of_articleYear? h).of_behindBlanks? hrest).of_behindWord
    exact (hyear.of_behindBlanks? hjoint).of_behindWord
  · cases h

theorem isYearOf_of_firstJoined? {first last : List Char}
    (h : firstJoined? cs = some (first, last)) : IsYearOf cs first ∧ IsYearOf cs last := by
  obtain ⟨i, -, h⟩ := List.exists_of_findSome?_eq_some h
  split at h
  · cases h
  · rename_i hb
    have hmem : ∀ v ∈ runs isWordChar (cs.drop i), v ∈ runs isWordChar cs := by
      intro v hv
      rw [← List.take_append_drop i cs]
      cases hl : (cs.take i).getLast? with
      | none => rwa [List.getLast?_eq_none_iff.mp hl, List.nil_append]
      | some c =>
        obtain ⟨left, hleft⟩ := List.getLast?_eq_some_iff.mp hl
        have hc : isWordChar c = false := by simpa [hl] using hb
        rw [hleft, List.append_assoc, List.singleton_append, runs_append_cons hc]
        exact List.mem_append_right _ hv
    obtain ⟨hfirst, hlast⟩ := isYearOf_of_joined? h
    exact ⟨⟨hfirst.1, hmem first hfirst.2⟩, ⟨hlast.1, hmem last hlast.2⟩⟩

end Members

theorem find_yearRange (s : String) : (yearRangePattern.find s).map (·.stop.kept) =
    (firstJoined? s.toList).map fun (first, last) => [("to", last), ("from", first)] :=
  takes_yearRange.find (fun _ => rfl) (fun cs h => by rw [joined?, firstYear?_of_nil h]; rfl) s

theorem yearRange?_eq (s : String) :
    yearRange? s = (joinedYears? s).bind fun (x, y) => DateRange.ofYears? x y := by
  rw [joinedYears?, yearRange?]
  rcases find_cases (find_yearRange s) with ⟨hm, hnone⟩ | ⟨m, ⟨first, last⟩, hm, hjoined, hkept⟩
  · rw [hm, hnone]
    rfl
  · obtain ⟨hfirst, hlast⟩ := isYearOf_of_firstJoined? hjoined
    have hfrom : yearOf? m "from" = writtenYear? first := yearOf?_eq hfirst.1 (by rw [hkept]; rfl)
    have hto : yearOf? m "to" = writtenYear? last := yearOf?_eq hlast.1 (by rw [hkept]; rfl)
    rw [hm, hjoined]
    simp only [Option.bind_eq_bind, Option.bind_some, hfrom, hto, Option.bind_assoc]
    cases writtenYear? first with
    | none => rfl
    | some x => cases writtenYear? last <;> rfl

end Phrase

/-- From the January of the first year to the December of the last. -/
structure DateRange.Spans (r : DateRange) (first last : Int) : Prop where
  start : r.start.year = first ∧ r.start.month = 1 ∧ r.start.day = 1
  stop : r.stop.year = last ∧ r.stop.month = 12 ∧ r.stop.day = 1

theorem DateRange.spans_ofYears? {x y : Int} (hx : 1900 ≤ x ∧ x ≤ 2099)
    (hy : 1900 ≤ y ∧ y ≤ 2099) :
    ∃ r, ofYears? x y = some r ∧ r.Spans (min x y) (max x y) := by
  have hfirst : firstYear ≤ 1900 := by decide
  have hlast : 2099 ≤ lastYear := by decide
  obtain ⟨start, hstart, hjanuary⟩ : ∃ d, Date.ofParts? (min x y) 1 1 = some d ∧ _ :=
    Date.exists_ofParts? (by omega) (by omega)
  obtain ⟨stop, hstop, hdecember⟩ : ∃ d, Date.ofParts? (max x y) 12 1 = some d ∧ _ :=
    Date.exists_ofParts? (by omega) (by omega)
  have hle : start.monthIndex ≤ stop.monthIndex := by
    unfold Date.monthIndex
    omega
  refine ⟨⟨start, stop⟩, ?_, hjanuary, hdecember⟩
  rw [ofYears?, hstart, hstop]
  exact congrArg some (ofEnds_of_le hjanuary.2.2 hdecember.2.2 hle)

namespace Phrase

open Text

theorem bounds_of_writtenYear? {w : List Char} {y : Int} (h : writtenYear? w = some y) :
    1900 ≤ y ∧ y ≤ 2099 := by
  unfold writtenYear? at h
  split at h
  · rename_i hw
    cases h
    omega
  · cases h

theorem mem_of_joinedYears? {s : String} {x y : Int} (h : joinedYears? s = some (x, y)) :
    x ∈ writtenYears s ∧ y ∈ writtenYears s := by
  obtain ⟨⟨first, last⟩, hjoined, h⟩ := Option.bind_eq_some_iff.mp h
  obtain ⟨x', hx, h⟩ := Option.bind_eq_some_iff.mp h
  obtain ⟨y', hy, he⟩ := Option.map_eq_some_iff.mp h
  cases he
  obtain ⟨hfirst, hlast⟩ := isYearOf_of_firstJoined? hjoined
  exact ⟨List.mem_filterMap.mpr ⟨first, hfirst.2, hx⟩, List.mem_filterMap.mpr ⟨last, hlast.2, hy⟩⟩

theorem resolve_eq {a : Anchor} {s : String}
    (hother : ∀ e ∈ rules a, e.1 ≠ .yearRange → e.1 ≠ .years → e.2 s = none) : resolve a s =
      (((yearRange? s).map (Resolution.mk · .yearRange)).or
        ((years? s).map (Resolution.mk · .years))).getD
          ⟨DateRange.trailing a.latest defaultMonths, .defaultTrailing⟩ := by
  let others := ((rules a).drop 1).take 7
  have hrules : rules a = (.yearRange, yearRange?) :: (others ++ [(.years, years?)]) := rfl
  have hnames : ∀ rule ∈ others.map Prod.fst, rule ≠ .yearRange ∧ rule ≠ .years := by
    change ∀ rule ∈ [Rule.quarter, .quarterShort, .month, .since, .lastN, .lastOne, .yearToDate], _
    decide
  have hnone {f : Rule × (String → Option DateRange) → Option Resolution}
      (hf : ∀ e, f e = (e.2 s).map (Resolution.mk · e.1)) : others.findSome? f = none := by
    rw [List.findSome?_eq_none_iff]
    intro e he
    obtain ⟨hrange, hyears⟩ := hnames e.1 (List.mem_map_of_mem he)
    rw [hf, hother e (List.mem_of_mem_drop (List.mem_of_mem_take he)) hrange hyears]
    rfl
  rw [resolve, hrules, List.findSome?_cons, List.findSome?_append, hnone, Option.none_or,
    List.findSome?_singleton]
  · dsimp only
    cases yearRange? s with
    | some r => rfl
    | none => cases years? s <;> rfl
  · exact fun _ => rfl

theorem bounds_of_mem {s : String} : ∀ y ∈ writtenYears s, 1900 ≤ y ∧ y ≤ 2099 := by
  intro y hy
  obtain ⟨w, -, hw⟩ := List.mem_filterMap.mp hy
  exact bounds_of_writtenYear? hw

/-- The range of the years rule goes from the least year of the text to the greatest. -/
theorem exists_of_years? {s : String} (h : writtenYears s ≠ []) :
    ∃ r, years? s = some r ∧ ∃ first ∈ writtenYears s, ∃ last ∈ writtenYears s,
      r.Spans first last ∧ ∀ y ∈ writtenYears s, first ≤ y ∧ y ≤ last := by
  have hbounds := bounds_of_mem (s := s)
  rw [years?, yearsIn_eq]
  cases hw : writtenYears s with
  | nil => exact absurd hw h
  | cons y ys =>
    rw [hw] at hbounds
    have hmin : (y :: ys).min? = some (ys.foldl min y) := List.min?_cons'
    have hmax : (y :: ys).max? = some (ys.foldl max y) := List.max?_cons'
    obtain ⟨hleast, hlow⟩ := List.min?_eq_some_iff.mp hmin
    obtain ⟨hgreatest, hhigh⟩ := List.max?_eq_some_iff.mp hmax
    obtain ⟨r, hr, hspans⟩ :=
      DateRange.spans_ofYears? (hbounds _ hleast) (hbounds _ hgreatest)
    have hle := hlow _ hgreatest
    rw [Int.min_eq_left hle, Int.max_eq_right hle] at hspans
    exact ⟨r, hr, _, hleast, _, hgreatest, hspans, fun y hy => ⟨hlow y hy, hhigh y hy⟩⟩

/-- Where a text has years and no rule finds anything but the two of years, the range goes from a
year of the text to a year of the text. All years of the text lie in it if and only if no two years
are joined in the text, or none lies outside of the first two that are. -/
theorem resolve_years {a : Anchor} {s : String} (hyears : writtenYears s ≠ [])
    (hother : ∀ e ∈ rules a, e.1 ≠ .yearRange → e.1 ≠ .years → e.2 s = none) :
    (resolve a s).explicit = true ∧
      ∃ first ∈ writtenYears s, ∃ last ∈ writtenYears s, (resolve a s).range.Spans first last ∧
        ((∀ y ∈ writtenYears s, first ≤ y ∧ y ≤ last) ↔
          ∀ x x', joinedYears? s = some (x, x') →
            ∀ y ∈ writtenYears s, min x x' ≤ y ∧ y ≤ max x x') := by
  rw [resolve_eq hother, yearRange?_eq]
  cases hj : joinedYears? s with
  | none =>
    obtain ⟨r, hr, first, hfirst, last, hlast, hspans, hall⟩ := exists_of_years? hyears
    rw [hr]
    refine ⟨rfl, first, hfirst, last, hlast, hspans, fun _ _ _ hx => ?_, fun _ => hall⟩
    cases hx
  | some pair =>
    obtain ⟨x, x'⟩ := pair
    obtain ⟨hx, hx'⟩ := mem_of_joinedYears? hj
    obtain ⟨r, hr, hspans⟩ :=
      DateRange.spans_ofYears? (bounds_of_mem x hx) (bounds_of_mem x' hx')
    have hleast : min x x' ∈ writtenYears s := by
      rcases (by omega : min x x' = x ∨ min x x' = x') with h | h <;> rw [h] <;> assumption
    have hgreatest : max x x' ∈ writtenYears s := by
      rcases (by omega : max x x' = x ∨ max x x' = x') with h | h <;> rw [h] <;> assumption
    rw [Option.bind_some]
    dsimp only
    rw [hr]
    refine ⟨rfl, min x x', hleast, max x x', hgreatest, hspans, fun hall z z' hz => ?_, fun h => ?_⟩
    · cases hz
      exact hall
    · exact h x x' rfl

def midNovember : Anchor where
  today := ⟨2023, 11, 15, by decide, by decide, by decide⟩
  latest := ⟨2023, 10, 1, by decide, by decide, by decide⟩

theorem resolve_years_listed :
    (∀ e ∈ rules midNovember, e.1 ≠ .yearRange → e.1 ≠ .years → e.2 "2019 2022 o 2021" = none) ∧
      (resolve midNovember "2019 2022 o 2021").explicit = true ∧
      ∃ first last, (resolve midNovember "2019 2022 o 2021").range.Spans first last ∧
        ∀ y ∈ [2019, 2022, 2021], first ≤ y ∧ y ≤ last := by
  have hyears : writtenYears "2019 2022 o 2021" = [2019, 2022, 2021] := by decide +kernel
  have hother : ∀ e ∈ rules midNovember, e.1 ≠ .yearRange → e.1 ≠ .years →
      e.2 "2019 2022 o 2021" = none := by decide +kernel
  have hjoined : joinedYears? "2019 2022 o 2021" = none := by decide +kernel
  obtain ⟨hexplicit, first, -, last, -, hspans, hall⟩ :=
    resolve_years (by rw [hyears]; exact List.cons_ne_nil _ _) hother
  rw [hyears, hjoined] at hall
  refine ⟨hother, hexplicit, first, last, hspans, hall.mpr fun x x' hx => ?_⟩
  cases hx

/-- The years that are joined leave another one out. -/
theorem resolve_leaves_year_out : ¬ ∀ (a : Anchor) (text : String),
    writtenYears (normalize text) ≠ [] →
      (∀ e ∈ rules a, e.1 ≠ .yearRange → e.1 ≠ .years → e.2 (normalize text) = none) →
        ∃ first last, (resolve a (normalize text)).range.Spans first last ∧
          ∀ y ∈ writtenYears (normalize text), first ≤ y ∧ y ≤ last := by
  intro hall
  have hnormal : normalize "2019, 2020 y 2022" = "2019 2020 y 2022" := by decide +kernel
  have hyears : writtenYears "2019 2020 y 2022" = [2019, 2020, 2022] := by decide +kernel
  have hother : ∀ e ∈ rules midNovember, e.1 ≠ .yearRange → e.1 ≠ .years →
      e.2 "2019 2020 y 2022" = none := by decide +kernel
  have hstart : (resolve midNovember "2019 2020 y 2022").range.start.year = 2020 := by
    decide +kernel
  have hspan := hall midNovember "2019, 2020 y 2022"
  rw [hnormal, hyears] at hspan
  obtain ⟨first, last, hspans, hbounds⟩ := hspan (List.cons_ne_nil _ _) hother
  have hfirst : first = 2020 := hspans.start.1.symm.trans hstart
  have hlow := (hbounds 2019 List.mem_cons_self).1
  omega

end Phrase

end BankQuery
