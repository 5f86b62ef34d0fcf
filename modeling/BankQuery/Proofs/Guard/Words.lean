import BankQuery.Proofs.Guard.Steps
import BankQuery.Proofs.Sql.Pieces
import BankQuery.Proofs.Text.Match

/-!
# The text of a statement before the guard

A text of valid pieces holds no separator and no comment marker. A forbidden word is looked for
between boundaries, so that it can only be a whole run of word characters; in such a text each run
is a word that is allowed, or the number of a placeholder.
-/

namespace BankQuery.Sql

open Text Text.Pattern

def marks : List Char := [' ', '(', ')', ',', '=', '<', '>', '$']

theorem isWordLetter_of_isDigit {c : Char} (h : c.isDigit = true) : isWordLetter c = true := by
  simp [isWordLetter, Char.isAlphanum, h]

theorem mem_marks_of_mem_piece {c : Char} {p : Piece} (hp : p.IsValid) (hc : c ∈ p.text.toList) :
    isWordLetter c = true ∨ c ∈ marks := by
  have hhole {n : Nat} (hc : c ∈ (holeName n).toList) : isWordLetter c = true ∨ c ∈ marks := by
    rw [holeName, String.toList_append] at hc
    rcases List.mem_append.mp hc with hc | hc
    · exact .inr (by simp at hc; simp [hc, marks])
    · exact .inl (isWordLetter_of_isDigit (isDigit_of_mem_repr hc))
  cases p with
  | word s | openWord s =>
    rw [Piece.text, String.toList_append] at hc
    rcases List.mem_append.mp hc with hc | hc
    · exact .inr (by simp at hc; simp [hc, marks])
    · exact .inl (hp.letters c hc)
  | hole n | openHole n =>
    rw [Piece.text, String.toList_append] at hc
    rcases List.mem_append.mp hc with hc | hc
    · exact .inr (by simp at hc; rcases hc with hc | hc <;> simp [hc, marks])
    · exact hhole hc
  | comma | close => exact .inr (by simp [Piece.text] at hc; simp [hc, marks])
  | equals => exact .inr (by simp [Piece.text] at hc; rcases hc with hc | hc <;> simp [hc, marks])
  | differs =>
    exact .inr (by simp [Piece.text] at hc; rcases hc with hc | hc | hc <;> simp [hc, marks])

theorem mem_marks_of_mem_textOf {c : Char} {ps : List Piece} (h : ∀ p ∈ ps, p.IsValid)
    (hc : c ∈ textOf ps) : isWordLetter c = true ∨ c ∈ marks := by
  obtain ⟨p, hp, hc⟩ := List.mem_flatMap.mp hc
  exact mem_marks_of_mem_piece (h p hp) hc

/-- Each run of word characters satisfies `ok`; a run that is under way has been looked at. -/
def Runs (ok : List Char → Prop) : Bool → List Char → Prop
  | _, [] => True
  | inside, c :: rest =>
    (inside = false → isWordChar c = true → ok ((c :: rest).takeWhile isWordChar)) ∧
      Runs ok (isWordChar c) rest

def Unforbidden (cs : List Char) : Prop :=
  ∀ word ∈ Guard.forbiddenWords,
    ¬ List.Forall₂ (fun l c => sameLetter l c = true) word.toList cs

namespace Runs

variable {ok : List Char → Prop} {rest : List Char}

theorem of_not_isWordChar {c : Char} {inside : Bool} (hc : isWordChar c = false)
    (h : Runs ok false rest) : Runs ok inside (c :: rest) := by
  refine ⟨fun _ hw => ?_, by rwa [hc]⟩
  rw [hc] at hw
  cases hw

/-- Before a character that is none of a word, it does not matter whether a run is under way. -/
theorem inside_of {inside : Bool} (hr : ∀ c ∈ rest.head?, isWordChar c = false)
    (h : Runs ok false rest) : Runs ok inside rest := by
  cases rest with
  | nil => trivial
  | cons c rest => exact of_not_isWordChar (hr c rfl) (by simpa [hr c rfl] using h.2)

theorem append_inside {w : List Char} (hw : ∀ c ∈ w, isWordChar c = true)
    (h : Runs ok true rest) : Runs ok true (w ++ rest) := by
  induction w with
  | nil => exact h
  | cons c w ih =>
    refine ⟨fun hf => Bool.noConfusion hf, ?_⟩
    rw [hw c List.mem_cons_self]
    exact ih fun d hd => hw d (List.mem_cons_of_mem c hd)

theorem append {w : List Char} (hw : ∀ c ∈ w, isWordChar c = true) (hok : ok w)
    (hr : ∀ c ∈ rest.head?, isWordChar c = false) (h : Runs ok false rest) :
    Runs ok false (w ++ rest) := by
  cases w with
  | nil => exact h
  | cons c w =>
    refine ⟨fun _ _ => ?_, ?_⟩
    · change ok ((c :: w ++ rest).takeWhile isWordChar)
      rwa [takeWhile_append_of_starts hw hr]
    · rw [hw c List.mem_cons_self]
      exact append_inside (fun d hd => hw d (List.mem_cons_of_mem c hd)) (inside_of hr h)

end Runs

theorem toLower_eq_of_sameLetter {l c : Char} (hc : isWordLetter c = true)
    (h : sameLetter l c = true) : c.toLower = l.toLower := by
  have hv := val_lt_of_isWordLetter hc
  have hk : (c.val == 0x212A) = false := by
    rw [beq_eq_false_iff_ne]
    rintro he
    simp [he] at hv
  have hs : (c.val == 0x17F) = false := by
    rw [beq_eq_false_iff_ne]
    rintro he
    simp [he] at hv
  simpa only [sameLetter, hk, hs, Bool.and_false, Bool.or_false, beq_iff_eq] using h

theorem map_toUpper_eq_of_sameLetter {ls cs : List Char} (hc : ∀ c ∈ cs, isWordLetter c = true)
    (h : List.Forall₂ (fun l c => sameLetter l c = true) ls cs) :
    cs.map Char.toUpper = ls.map Char.toUpper := by
  induction h with
  | nil => rfl
  | @cons l c ls cs hlc _ ih =>
    have hu : c.toUpper = l.toUpper := by
      rw [← (classes_toLower c).2.2, ← (classes_toLower l).2.2,
        toLower_eq_of_sameLetter (hc c List.mem_cons_self) hlc]
    rw [List.map_cons, List.map_cons, hu, ih fun d hd => hc d (List.mem_cons_of_mem c hd)]

/-- A forbidden word is written in capital letters, of which it has at least one. In no letter case
is one of them a mark. -/
theorem letters_of_forbidden : ∀ word ∈ Guard.forbiddenWords, word.toList ≠ [] ∧
    ∀ l ∈ word.toList, l.toUpper = l ∧ l.isDigit = false ∧
      ∀ c ∈ marks, sameLetter l c = false := by
  have h : (Guard.forbiddenWords.all fun word => !word.toList.isEmpty && word.toList.all fun l =>
      l.toUpper == l && !l.isDigit && marks.all fun c => !sameLetter l c) = true := by
    decide +kernel
  simpa [and_assoc] using h

theorem Unforbidden.of_isAllowed {s : String} (h : IsAllowed s) : Unforbidden s.toList := by
  intro word hword hf
  have hupper : word.toList.map Char.toUpper = word.toList :=
    (List.map_congr_left fun l hl => ((letters_of_forbidden word hword).2 l hl).1).trans
      (List.map_id _)
  have he : upper s = word := by
    rw [← String.toList_inj, h.toIsWord.toList_upper, map_toUpper_eq_of_sameLetter h.letters hf,
      hupper]
  exact h.allowed (he ▸ hword)

theorem Unforbidden.of_isDigit {cs : List Char} (h : ∀ c ∈ cs, c.isDigit = true) :
    Unforbidden cs := by
  intro word hword hf
  obtain ⟨hne, hletters⟩ := letters_of_forbidden word hword
  generalize word.toList = letters at hf hne hletters
  cases hf with
  | nil => exact hne rfl
  | @cons l c ls cs hlc _ =>
    have hd := (hletters l List.mem_cons_self).2.1
    have hc := h c List.mem_cons_self
    have he := congrArg Char.isDigit (toLower_eq_of_sameLetter (isWordLetter_of_isDigit hc) hlc)
    rw [(classes_toLower c).2.1, (classes_toLower l).2.1, hc, hd] at he
    cases he

/-- In a text of valid pieces no run of word characters is a forbidden word. -/
theorem runs_textOf {ps : List Piece} (h : ∀ p ∈ ps, p.IsValid) :
    Runs Unforbidden false (textOf ps) := by
  have hmarks : ∀ c ∈ marks, isWordChar c = false := by
    simpa using (by decide : (marks.all fun c => !isWordChar c) = true)
  have hblank := hmarks ' ' (by decide)
  induction ps with
  | nil => trivial
  | cons p ps ih =>
    have hrest := ih fun q hq => h q (List.mem_cons_of_mem p hq)
    have hp := h p List.mem_cons_self
    have hends : ∀ c ∈ (textOf ps).head?, isWordChar c = false := fun c hc =>
      ((starts_textOf ps).classes c hc).2.2.1
    have hword {s : String} (hs : IsAllowed s) : Runs Unforbidden false (s.toList ++ textOf ps) :=
      .append (fun c hc => (classes_of_isWordLetter (hs.letters c hc)).2.1) (.of_isAllowed hs) hends
        hrest
    have hhole (n : Nat) : Runs Unforbidden false ((holeName n).toList ++ textOf ps) := by
      have hdigits : ∀ c ∈ (Nat.repr n).toList, isWordLetter c = true := fun c hc =>
        isWordLetter_of_isDigit (isDigit_of_mem_repr hc)
      have hnumber : Runs Unforbidden false ((Nat.repr n).toList ++ textOf ps) :=
        .append (fun c hc => (classes_of_isWordLetter (hdigits c hc)).2.1)
          (.of_isDigit fun _ => isDigit_of_mem_repr) hends hrest
      rw [holeName, String.toList_append, List.append_assoc]
      exact .of_not_isWordChar (hmarks '$' (by decide)) hnumber
    rw [textOf, List.flatMap_cons]
    change Runs Unforbidden false (p.text.toList ++ textOf ps)
    cases p with
    | word s =>
      rw [Piece.text, String.toList_append]
      exact .of_not_isWordChar hblank (hword hp)
    | openWord s =>
      rw [Piece.text, String.toList_append]
      exact .of_not_isWordChar (hmarks '(' (by decide)) (hword hp)
    | hole n =>
      rw [Piece.text, String.toList_append]
      exact .of_not_isWordChar hblank (hhole n)
    | openHole n =>
      rw [Piece.text, String.toList_append]
      exact .of_not_isWordChar hblank (.of_not_isWordChar (hmarks '(' (by decide)) (hhole n))
    | comma => exact .of_not_isWordChar (hmarks ',' (by decide)) hrest
    | close => exact .of_not_isWordChar (hmarks ')' (by decide)) hrest
    | equals =>
      exact .of_not_isWordChar hblank (.of_not_isWordChar (hmarks '=' (by decide)) hrest)
    | differs =>
      exact .of_not_isWordChar hblank (.of_not_isWordChar (hmarks '<' (by decide))
        (.of_not_isWordChar (hmarks '>' (by decide)) hrest))

end BankQuery.Sql

namespace BankQuery.Guard

open Sql Text Text.Pattern

theorem mem_of_occurs {c : Char} {part cs : List Char} (h : occurs (c :: part) cs = true) :
    c ∈ cs := by
  induction cs with
  | nil => cases h
  | cons d cs ih =>
    rw [occurs, Bool.or_eq_true] at h
    rcases h with h | h
    · rw [startsWith, Bool.and_eq_true, beq_iff_eq] at h
      rw [h.1]
      exact List.mem_cons_self
    · exact List.mem_cons_of_mem d (ih h)

theorem holds_eq_false {text : String} {c : Char} (part : List Char) (hc : c ∉ text.toList) :
    holds text (String.ofList (c :: part)) = false := by
  rw [holds, String.toList_ofList, ← Bool.not_eq_true]
  exact fun h => hc (mem_of_occurs h)

theorem isWordLetter_of_sameLetter {ls cs : List Char}
    (hl : ∀ l ∈ ls, ∀ c ∈ marks, sameLetter l c = false)
    (h : List.Forall₂ (fun l c => sameLetter l c = true) ls cs)
    (hw : ∀ c ∈ cs, isWordLetter c = true ∨ c ∈ marks) : ∀ c ∈ cs, isWordLetter c = true := by
  induction h with
  | nil => simp
  | @cons l d ls cs hld _ ih =>
    intro c hc
    rcases List.mem_cons.mp hc with rfl | hc
    · refine (hw c List.mem_cons_self).resolve_right fun hm => ?_
      rw [hl l List.mem_cons_self c hm] at hld
      cases hld
    · exact ih (fun k hk => hl k (List.mem_cons_of_mem l hk))
        (fun e he => hw e (List.mem_cons_of_mem d he)) c hc

/-- A forbidden word that is found is a whole run of word characters. -/
theorem run_of_forbidden {s t : Place} (h : forbiddenPattern.Reaches s t)
    (hw : ∀ c ∈ s.rest, isWordLetter c = true ∨ c ∈ marks) :
    s.before.any isWordChar = false ∧ s.rest.head?.any isWordChar = true ∧
      ¬ Unforbidden (s.rest.takeWhile isWordChar) := by
  change (Pattern.both (.both .boundary (anyCaseOf forbiddenWords)) .boundary).Reaches s t at h
  cases h with
  | both hpq hstop =>
    cases hpq with
    | both hstart hword =>
      cases hstart with
      | boundary hs =>
        cases hstop with
        | boundary ht =>
          obtain ⟨p, hp, hr⟩ := hword.of_oneOf
          obtain ⟨word, hm, rfl⟩ := List.mem_map.mp hp
          obtain ⟨cs, hcs, hf, hb⟩ := hr.of_anyCase
          obtain ⟨hne, hfree⟩ := letters_of_forbidden word hm
          have hletters : ∀ c ∈ cs, isWordLetter c = true :=
            isWordLetter_of_sameLetter (fun l hl => (hfree l hl).2.2) hf fun c hc =>
              hw c (by simp [hcs, hc])
          have hchars : ∀ c ∈ cs, isWordChar c = true := fun c hc =>
            (classes_of_isWordLetter (hletters c hc)).2.1
          obtain ⟨c, ds, rfl⟩ := List.exists_cons_of_ne_nil (l := cs) fun hnil =>
            hne (List.forall₂_nil_right_iff.mp (hnil ▸ hf))
          have hhead : s.rest.head?.any isWordChar = true := by
            rw [hcs]
            exact hchars c List.mem_cons_self
          have hbefore : t.before.any isWordChar = true := by
            rw [hb, List.getLast?_eq_some_getLast (List.cons_ne_nil c ds)]
            exact hchars _ (List.getLast_mem _)
          have hafter : ∀ d ∈ t.rest.head?, isWordChar d = false := by
            have hn : t.rest.head?.any isWordChar = false := by
              simpa [Place.atBoundary, hbefore] using ht
            intro d hd
            rwa [show t.rest.head? = some d from hd] at hn
          refine ⟨by simpa [Place.atBoundary, hhead] using hs, hhead, fun hu => ?_⟩
          rw [hcs, takeWhile_append_of_starts hchars hafter] at hu
          exact hu word hm hf

theorem findFrom_forbidden_eq_none {before : Option Char} {cs : List Char}
    (hw : ∀ c ∈ cs, isWordLetter c = true ∨ c ∈ marks)
    (h : Runs Unforbidden (before.any isWordChar) cs) :
    forbiddenPattern.findFrom before cs = none := by
  induction cs generalizing before with
  | nil =>
    cases hm : forbiddenPattern.matchAt before [] with
    | none => exact hm
    | some m =>
      obtain ⟨-, hh, -⟩ := run_of_forbidden (matchAt_eq_some hm).1 hw
      cases hh
  | cons c rest ih =>
    have hat : forbiddenPattern.matchAt before (c :: rest) = none := by
      cases hm : forbiddenPattern.matchAt before (c :: rest) with
      | none => rfl
      | some m =>
        obtain ⟨hb, hh, hu⟩ := run_of_forbidden (matchAt_eq_some hm).1 hw
        exact absurd (h.1 hb hh) hu
    rw [findFrom, hat]
    exact ih (fun d hd => hw d (List.mem_cons_of_mem c hd)) h.2

/-- The text of a plain report passes the checks on texts. -/
theorem checkText_eq_ok {first : String} {ps : List Piece} {text : String}
    (ht : text.toList = first.toList ++ textOf ps) (hf : IsAllowed first)
    (h : ∀ p ∈ ps, p.IsValid) : checkText text = .ok () := by
  have hw : ∀ c ∈ text.toList, isWordLetter c = true ∨ c ∈ marks := by
    intro c hc
    rw [ht] at hc
    rcases List.mem_append.mp hc with hc | hc
    · exact .inl (hf.letters c hc)
    · exact mem_marks_of_mem_textOf h hc
  have hmem {c : Char} (hl : isWordLetter c = false) (hc : c ∉ marks) : c ∉ text.toList := by
    intro hm
    rcases hw c hm with hm | hm
    · rw [hl] at hm
      cases hm
    · exact hc hm
  refine checkText_eq_ok_iff.mpr ⟨?_, ?_, ?_, ?_⟩
  · exact holds_eq_false (c := ';') [] (hmem (by decide) (by decide))
  · exact holds_eq_false (c := '-') ['-'] (hmem (by decide) (by decide))
  · exact holds_eq_false (c := '/') ['*'] (hmem (by decide) (by decide))
  · refine findFrom_forbidden_eq_none hw ?_
    rw [ht]
    exact .append (fun c hc => (classes_of_isWordLetter (hf.letters c hc)).2.1) (.of_isAllowed hf)
      (fun c hc => ((starts_textOf ps).classes c hc).2.2.1) (runs_textOf h)

end BankQuery.Guard
