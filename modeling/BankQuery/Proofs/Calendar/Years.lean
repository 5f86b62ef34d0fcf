import Mathlib.Data.List.DropRight
import BankQuery.Proofs.Calendar.Range
import BankQuery.Proofs.Calendar.Text
import BankQuery.Proofs.Text.Phrases

/-!
# Years of a text

A word of four digits between 1900 and 2099 is a year.
-/

namespace BankQuery.Phrase

open Text Text.Pattern

/-- Four digits of which the first two are those of a century. -/
def isYearWord : List Char → Bool
  | [a, b, c, d] =>
    ((a == '1' && b == '9') || (a == '2' && b == '0')) && Text.isDigit c && Text.isDigit d
  | _ => false

def writtenYear? (w : List Char) : Option Int :=
  if w.length = 4 ∧ w.all Char.isDigit = true ∧ 1900 ≤ Date.digitsToNat w ∧
      Date.digitsToNat w ≤ 2099 then
    some (Date.digitsToNat w)
  else none

theorem decimal?_ofList {w : List Char} (hne : w ≠ []) : decimal? (String.ofList w) =
    if w.all Char.isDigit = true then some (Date.digitsToNat w) else none := by
  unfold decimal?
  rw [String.toList_ofList]
  simp [hne]

theorem isDigit_of_ascii {c : Char} (h : c.isDigit = true) : Text.isDigit c = true :=
  Date.of_isDigit (p := fun c => Text.isDigit c = true) (by decide) h

/-- Four digits are a year exactly if their number lies in the two centuries. -/
theorem isYearWord_iff {a b c d : Char} (hd : [a, b, c, d].all Char.isDigit = true) :
    isYearWord [a, b, c, d] = true ↔
      1900 ≤ Date.digitsToNat [a, b, c, d] ∧ Date.digitsToNat [a, b, c, d] ≤ 2099 := by
  have hvalue : Date.digitsToNat [a, b, c, d] =
      (((a.toNat - 48) * 10 + (b.toNat - 48)) * 10 + (c.toNat - 48)) * 10 + (d.toNat - 48) := by
    simp [Date.digitsToNat]
  obtain ⟨ha, hb, hc, hd⟩ :
      a.isDigit = true ∧ b.isDigit = true ∧ c.isDigit = true ∧ d.isDigit = true := by
    simpa using hd
  have heq (e e' : Char) : e = e' ↔ e.toNat = e'.toNat :=
    ⟨congrArg Char.toNat, Char.toNat_inj.mp⟩
  have h1 : '1'.toNat = 49 := rfl
  have h9 : '9'.toNat = 57 := rfl
  have h2 : '2'.toNat = 50 := rfl
  have h0 : '0'.toNat = 48 := rfl
  simp only [isYearWord, isDigit_of_ascii hc, isDigit_of_ascii hd, Bool.and_true, Bool.or_eq_true,
    Bool.and_eq_true, beq_iff_eq, heq, h1, h9, h2, h0, hvalue]
  have := Date.toNat_of_isDigit ha
  have := Date.toNat_of_isDigit hb
  have := Date.toNat_of_isDigit hc
  have := Date.toNat_of_isDigit hd
  omega

theorem writtenYear?_eq (w : List Char) : writtenYear? w =
    if isYearWord w = true then (decimal? (String.ofList w)).map Int.ofNat else none := by
  match w with
  | [] | [_] | [_, _] | [_, _, _] | _ :: _ :: _ :: _ :: _ :: _ => simp [writtenYear?, isYearWord]
  | [a, b, c, d] =>
    rw [decimal?_ofList (List.cons_ne_nil _ _)]
    unfold writtenYear?
    by_cases hd : [a, b, c, d].all Char.isDigit = true
    · simp only [hd, isYearWord_iff hd, if_true, List.length_cons, List.length_nil, Nat.zero_add,
        true_and, Option.map_some]
      rfl
    · simp [hd]

theorem exists_of_isYearWord {w : List Char} (h : isYearWord w = true) :
    ∃ a b c d, w = [a, b, c, d] := by
  unfold isYearWord at h
  split at h
  · exact ⟨_, _, _, _, rfl⟩
  · cases h

theorem isWordChar_of_isYearWord {w : List Char} (h : isYearWord w = true) :
    w ≠ [] ∧ ∀ c ∈ w, isWordChar c = true := by
  have hcentury : ∀ c ∈ ['1', '9', '2', '0'], isWordChar c = true :=
    List.all_eq_true.mp (by decide)
  obtain ⟨a, b, c, d, rfl⟩ := exists_of_isYearWord h
  simp only [isYearWord, Bool.and_eq_true, Bool.or_eq_true, beq_iff_eq] at h
  obtain ⟨⟨hab, hc⟩, hd⟩ := h
  have hc := isWordChar_of_isDigit hc
  have hd := isWordChar_of_isDigit hd
  refine ⟨List.cons_ne_nil _ _, ?_⟩
  rcases hab with ⟨rfl, rfl⟩ | ⟨rfl, rfl⟩ <;> simp [hcentury, hc, hd]

variable {α : Type} {s : Place} {k : Place → Option α}

theorem run_year_eq (label : String) (before : Option Char) (rest : List Char)
    (kept : List (String × List Char)) : (year label).run ⟨before, rest, kept⟩ k =
      match rest with
      | a :: b :: c :: d :: rest =>
        if isYearWord [a, b, c, d] = true then k ⟨some d, rest, (label, [a, b, c, d]) :: kept⟩
        else none
      | _ => none := by
  change (either (literal "19") (literal "20")).run ⟨before, rest, kept⟩ (fun t => digit.run t
    fun t => digit.run t fun t =>
      k { t with kept := (label, rest.take (rest.length - t.rest.length)) :: t.kept }) = _
  simp only [run_either, run_literal, show "19".toList = ['1', '9'] from rfl,
    show "20".toList = ['2', '0'] from rfl]
  match rest with
  | [] | [_] | [_, _] | [_, _, _] => simp [run_digit]
  | a :: b :: c :: d :: rest =>
    by_cases hc : Text.isDigit c = true
    · by_cases hd : Text.isDigit d = true
      · have htake : (a :: b :: c :: d :: rest).take (rest.length + 1 + 1 + 1 + 1 - rest.length) =
            [a, b, c, d] := by
          rw [show rest.length + 1 + 1 + 1 + 1 - rest.length = 4 by omega]
          rfl
        simp only [run_digit, isYearWord, hc, hd, htake, List.cons_prefix_cons, List.nil_prefix,
          List.length_cons, List.length_nil, List.drop_succ_cons, List.drop_zero, if_true,
          Bool.and_true, Bool.or_eq_true, Bool.and_eq_true, beq_iff_eq, and_true]
        simp only [@eq_comm _ '1' a, @eq_comm _ '9' b, @eq_comm _ '2' a, @eq_comm _ '0' b]
        generalize k ⟨some d, rest, (label, [a, b, c, d]) :: kept⟩ = found
        by_cases h19 : a = '1' ∧ b = '9'
        · rw [if_pos h19, if_pos (Or.inl h19)]
          split
          · exact Option.or_self
          · exact Option.or_none
        · simp only [h19, false_or, if_false, Option.none_or]
      · simp [run_digit, isYearWord, hc, hd]
    · simp [run_digit, isYearWord, hc]

/-- A year is found where it is the whole word, if nothing that may follow goes on within it. -/
theorem run_year {label : String} (hk : StopsAtEnd k) :
    (year label).run s k = if isYearWord (wordOf s.rest) = true then
      k { s.pass isWordChar with kept := (label, wordOf s.rest) :: s.kept } else none := by
  obtain ⟨before, rest, kept⟩ := s
  rw [run_year_eq]
  by_cases hy : isYearWord (wordOf rest) = true
  · obtain ⟨a, b, c, d, hw⟩ := exists_of_isYearWord hy
    have hcut := wordOf_append_behindWord rest
    have hpass : Place.pass ⟨before, rest, kept⟩ isWordChar = ⟨some d, behindWord rest, kept⟩ := by
      rw [Place.pass, ← wordOf, ← behindWord, hw]
      rfl
    rw [hpass, if_pos hy]
    rw [hw] at hcut hy ⊢
    generalize behindWord rest = behind at hcut ⊢
    subst hcut
    exact if_pos hy
  · rw [if_neg hy]
    rcases rest with _ | ⟨a, _ | ⟨b, _ | ⟨c, _ | ⟨d, rest⟩⟩⟩⟩
    · rfl
    · rfl
    · rfl
    · rfl
    · by_cases hword : isYearWord [a, b, c, d] = true
      · have hall := (isWordChar_of_isYearWord hword).2
        refine (if_pos hword).trans (hk _ (hall d (by simp)) ?_)
        by_contra hr
        have he := (wordOf_append hall (by simpa using hr)).1
        exact hy (he.symm ▸ hword)
      · exact if_neg hword

theorem readsWord_year : ReadsWord (anyOf ["19", "20"] ++ digit ++ digit) isYearWord := by
  intro s k hk
  -- The piece that `year` keeps is taken away again.
  have hrun : (year "").run s (fun t => k { t with kept := t.kept.tail }) = _ :=
    run_year fun t hbefore hrest => hk { t with kept := t.kept.tail } hbefore hrest
  exact hrun

theorem isWordChar_getLast? {w : List Char} (h : isYearWord w = true) (before : Option Char) :
    (w.getLast?.or before).any isWordChar = true := by
  obtain ⟨hne, hall⟩ := isWordChar_of_isYearWord h
  exact any_getLast? hall hne before

/-- A year and the end of a word. -/
theorem run_lastYear (label : String) (s : Place) :
    (year label).run s (fun t => boundary.run t some) = if isYearWord (wordOf s.rest) = true then
      some { s.pass isWordChar with kept := (label, wordOf s.rest) :: s.kept } else none := by
  rw [run_year (stopsAtEnd_boundary some)]
  by_cases hy : isYearWord (wordOf s.rest) = true
  · rw [if_pos hy, if_pos hy]
    exact if_pos (atBoundary_pass (isWordChar_of_isYearWord hy).1)
  · rw [if_neg hy, if_neg hy]

/-- Where a word begins with a year, the pattern begins at its first character only. -/
theorem run_firstYear (hk : ∀ t, isYearWord (wordOf t.rest) = false → k t = none) (s : Place) :
    boundary.run s k = if s.before.any isWordChar = true then none else k s := by
  apply run_boundary
  intro t ht
  apply hk t
  rw [wordOf_eq_nil ht]
  rfl

def yearFound (before : Option Char) (cs : List Char) : Found :=
  ⟨wordOf cs, (wordOf cs).getLast?.or before, behindWord cs, [("year", wordOf cs)]⟩

theorem matchAt_bareYear (before : Option Char) (cs : List Char) :
    bareYearPattern.matchAt before cs =
      if before.any isWordChar = false ∧ isYearWord (wordOf cs) = true then
        some (yearFound before cs)
      else none := by
  have hrun : bareYearPattern.run ⟨before, cs, []⟩ some =
      if before.any isWordChar = true then none
      else if isYearWord (wordOf cs) = true then
        some ⟨(wordOf cs).getLast?.or before, behindWord cs, [("year", wordOf cs)]⟩
      else none := by
    change boundary.run ⟨before, cs, []⟩ (fun s => (year "year").run s fun t =>
      boundary.run t some) = _
    rw [run_firstYear fun t ht => by rw [run_lastYear, ht]; rfl, run_lastYear]
    rfl
  rw [matchAt, hrun]
  cases before.any isWordChar with
  | true => simp
  | false =>
    by_cases hy : isYearWord (wordOf cs) = true
    · simp [hy, take_wordOf, yearFound]
    · simp [hy]

def writtenYears (s : String) : List Int := (runs isWordChar s.toList).filterMap writtenYear?

def freshWords (before : Option Char) (cs : List Char) : List (List Char) :=
  runs isWordChar (if before.any isWordChar = true then behindWord cs else cs)

/-- A piece that is a year word is read as the year that it is. -/
theorem yearOf?_eq {m : Found} {label : String} {w : List Char} (hw : isYearWord w = true)
    (hm : m.stop.kept.lookup label = some w) : yearOf? m label = writtenYear? w := by
  have hpiece : m.piece? label = some (String.ofList w) := by
    rw [Found.piece?, hm]
    rfl
  rw [writtenYear?_eq, if_pos hw]
  simp only [yearOf?, hpiece, Option.bind_eq_bind, Option.bind_some]
  cases decimal? (String.ofList w) <;> rfl

/-- A character that no match begins at is passed over, and with it the word that it begins. -/
theorem filterMap_freshWords_cons {before : Option Char} {c : Char} {rest : List Char}
    (h : ¬ (before.any isWordChar = false ∧ isYearWord (wordOf (c :: rest)) = true)) :
    (freshWords before (c :: rest)).filterMap writtenYear? =
      (freshWords (some c) rest).filterMap writtenYear? := by
  unfold freshWords
  rw [Option.any_some]
  by_cases hc : isWordChar c = true
  · have hbehind : behindWord (c :: rest) = behindWord rest := List.dropWhile_cons_of_pos hc
    rw [if_pos hc]
    cases hb : before.any isWordChar with
    | true => rw [if_pos rfl, hbehind]
    | false =>
      have hno : writtenYear? (wordOf (c :: rest)) = none := by
        rw [writtenYear?_eq, if_neg fun hy => h ⟨hb, hy⟩]
      have hne : (c :: rest).takeWhile isWordChar ≠ [] := by
        rw [List.takeWhile_cons_of_pos hc]
        exact List.cons_ne_nil c _
      rw [if_neg Bool.false_ne_true, runs_eq_cons hne, ← wordOf, ← behindWord, hbehind,
        List.filterMap_cons_none hno]
  · have hbehind : behindWord (c :: rest) = c :: rest := List.dropWhile_cons_of_neg hc
    rw [hbehind, ite_self, if_neg hc, runs_cons_of_neg (by simpa using hc)]

theorem length_behindWord_lt {cs : List Char} (h : cs.takeWhile isWordChar ≠ []) :
    (behindWord cs).length < cs.length := by
  have hcut := congrArg List.length (wordOf_append_behindWord cs)
  have hpos : 0 < (wordOf cs).length := List.length_pos_iff.mpr h
  rw [List.length_append] at hcut
  omega

/-- A word that begins in the text is the first of its words; what it leaves is read behind it. -/
theorem freshWords_eq_cons {before : Option Char} {cs : List Char}
    (hb : before.any isWordChar = false) (hy : isYearWord (wordOf cs) = true) :
    freshWords before cs =
      wordOf cs :: freshWords ((wordOf cs).getLast?.or before) (behindWord cs) := by
  have hagain : behindWord (behindWord cs) = behindWord cs :=
    List.dropWhile_idempotent isWordChar cs
  rw [freshWords, freshWords, hb, if_neg Bool.false_ne_true, isWordChar_getLast? hy, if_pos rfl,
    hagain]
  exact runs_eq_cons (isWordChar_of_isYearWord hy).1

/-- The matches in a text are the years among the words that begin in it. -/
theorem filterMap_findAllFrom {n : Nat} {before : Option Char} {cs : List Char}
    (hn : cs.length < n) : (bareYearPattern.findAllFrom n before cs).filterMap (yearOf? · "year") =
      (freshWords before cs).filterMap writtenYear? := by
  induction hl : cs.length using Nat.strongRecOn generalizing n before cs with
  | ind length ih =>
    obtain ⟨n, rfl⟩ := Nat.exists_eq_succ_of_ne_zero (Nat.ne_zero_of_lt hn)
    cases cs with
    | nil =>
      have hnone : bareYearPattern.findFrom before [] = none := by
        rw [findFrom, matchAt_bareYear, if_neg]
        rintro ⟨-, hy⟩
        cases hy
      rw [findAllFrom, hnone, freshWords]
      cases before.any isWordChar <;> rfl
    | cons c rest =>
      by_cases hm : before.any isWordChar = false ∧ isYearWord (wordOf (c :: rest)) = true
      · have hshort := length_behindWord_lt (isWordChar_of_isYearWord hm.2).1
        have hfound : bareYearPattern.findFrom before (c :: rest) =
            some (yearFound before (c :: rest)) := by
          rw [findFrom, matchAt_bareYear, if_pos hm]
        have hword : yearOf? (yearFound before (c :: rest)) "year" =
            writtenYear? (wordOf (c :: rest)) := yearOf?_eq hm.2 rfl
        have hbehind : (bareYearPattern.findAllFrom n ((wordOf (c :: rest)).getLast?.or before)
            (behindWord (c :: rest))).filterMap (yearOf? · "year") = _ :=
          ih (behindWord (c :: rest)).length (by omega) (by omega) rfl
        rw [findAllFrom, hfound, freshWords_eq_cons hm.1 hm.2, List.filterMap_cons,
          List.filterMap_cons, hword, ← hbehind]
        rfl
      · have hskip : bareYearPattern.findAllFrom (n + 1) before (c :: rest) =
            bareYearPattern.findAllFrom (n + 1) (some c) rest := by
          rw [findAllFrom, findAllFrom, findFrom, matchAt_bareYear, if_neg hm]
        rw [List.length_cons] at hl hn
        rw [hskip, filterMap_freshWords_cons hm]
        exact ih rest.length (by omega) (by omega) rfl

theorem yearsIn_eq (s : String) : yearsIn s = writtenYears s := by
  apply filterMap_findAllFrom
  rw [String.length_toList]
  exact Nat.lt_succ_self s.length

/-- Where only spaces stand between word characters, the words are the tokens. -/
theorem writtenYears_eq_tokens {s : String}
    (h : ∀ c ∈ s.toList, isWordChar c = true ∨ c = ' ') :
    writtenYears s = (tokens s).filterMap fun t => writtenYear? t.toList := by
  have hruns : runs isWordChar s.toList = runs (· != ' ') s.toList := by
    apply runs_congr
    intro c hc
    by_cases hspace : c = ' '
    · rw [hspace]
      decide
    · rw [(h c hc).resolve_right hspace, bne_iff_ne.mpr hspace]
  rw [writtenYears, hruns, tokens, List.filterMap_map]
  simp only [Function.comp_def, String.toList_ofList]

end BankQuery.Phrase
