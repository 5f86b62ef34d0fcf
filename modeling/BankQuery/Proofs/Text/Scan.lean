import BankQuery.Proofs.Text.Match
import BankQuery.Proofs.Text.Words

/-!
# Patterns made of words

A run of word characters is a word. A pattern that names whole words with blanks between them can be
read word by word: what it does at a place depends on the word there, and it goes on behind it.
Giving back a part of a word or of the blanks is of no use, since nothing that may follow begins
with a word character or with a blank.
-/

namespace BankQuery.Text

def wordOf (cs : List Char) : List Char := cs.takeWhile isWordChar

def behindWord (cs : List Char) : List Char := cs.dropWhile isWordChar

theorem wordOf_append_behindWord (cs : List Char) : wordOf cs ++ behindWord cs = cs :=
  List.takeWhile_append_dropWhile

theorem wordOf_eq_nil {cs : List Char} (h : cs.head?.any isWordChar = false) : wordOf cs = [] := by
  cases cs with
  | nil => rfl
  | cons c rest => exact List.takeWhile_cons_of_neg (by simpa using h)

section Words

variable {w rest : List Char} (hw : ∀ c ∈ w, isWordChar c = true)

include hw

/-- Characters of a word are the whole word if the text does not go on within it. -/
theorem wordOf_append (hr : rest.head?.any isWordChar = false) :
    wordOf (w ++ rest) = w ∧ behindWord (w ++ rest) = rest := by
  have hstop : rest.takeWhile isWordChar = [] ∧ rest.dropWhile isWordChar = rest := by
    cases rest with
    | nil => exact ⟨rfl, rfl⟩
    | cons c rest =>
      have hc : ¬ isWordChar c = true := by simpa using hr
      exact ⟨List.takeWhile_cons_of_neg hc, List.dropWhile_cons_of_neg hc⟩
  rw [wordOf, behindWord, List.takeWhile_append_of_pos hw, List.dropWhile_append_of_pos hw,
    hstop.1, hstop.2, List.append_nil]
  exact ⟨rfl, rfl⟩

theorem wordOf_append_ne (hr : rest.head?.any isWordChar = true) : wordOf (w ++ rest) ≠ w := by
  cases rest with
  | nil => cases hr
  | cons c rest =>
    have hc : isWordChar c = true := hr
    rw [wordOf, List.takeWhile_append_of_pos hw, List.takeWhile_cons_of_pos hc]
    intro he
    exact List.cons_ne_nil c _ (List.append_right_eq_self.mp he)

/-- Behind a word stands a character of a word. -/
theorem any_getLast? (hne : w ≠ []) (before : Option Char) :
    (w.getLast?.or before).any isWordChar = true := by
  rw [List.getLast?_eq_some_getLast hne]
  exact hw _ (List.getLast_mem hne)

end Words

/-- What is left when the text behind the word is cut off is the word. -/
theorem take_wordOf (cs : List Char) :
    cs.take (cs.length - (behindWord cs).length) = wordOf cs := by
  have htake : (wordOf cs ++ behindWord cs).take (wordOf cs).length = wordOf cs := List.take_left
  have hcut := wordOf_append_behindWord cs
  have hlength : (wordOf cs).length + (behindWord cs).length = cs.length := by
    rw [← List.length_append, hcut]
  rwa [hcut, Nat.eq_sub_of_add_eq hlength] at htake

theorem not_isWordChar_of_isBlank {c : Char} (h : isBlank c = true) : isWordChar c = false := by
  have hall : ∀ p ∈ blankRanges, ∀ n ≤ p.2 - p.1, isWordChar (Char.ofNat (p.1 + n)) = false := by
    decide +kernel
  obtain ⟨p, hp, hlow, hhigh⟩ := Ranges.exists_of_has h
  have hc := hall p hp (c.toNat - p.1) (Nat.sub_le_sub_right hhigh p.1)
  have he : p.1 + (c.toNat - p.1) = c.toNat := Nat.add_sub_cancel' hlow
  rwa [he, Char.ofNat_toNat] at hc

section Runs

variable {p : Char → Bool}

theorem runs_congr {q : Char → Bool} {cs : List Char} (h : ∀ c ∈ cs, p c = q c) :
    runs p cs = runs q cs := by
  have hrun : ∀ run, runsFrom p run cs = runsFrom q run cs := by
    induction cs with
    | nil => exact fun _ => rfl
    | cons c cs ih =>
      obtain ⟨hc, hcs⟩ := List.forall_mem_cons.mp h
      intro run
      rw [runsFrom, runsFrom, hc, ih hcs, ih hcs]
  exact hrun []

theorem runs_cons_of_neg {c : Char} (hc : p c = false) (cs : List Char) :
    runs p (c :: cs) = runs p cs := by
  rw [runs, runsFrom_cons, hc, if_neg Bool.false_ne_true]
  rfl

/-- What stands behind a separator is read on its own. -/
theorem runs_append_cons {c : Char} (hc : p c = false) (a b : List Char) :
    runs p (a ++ c :: b) = runs p a ++ runs p b := runsFrom_append_cons hc [] a b

theorem head?_dropWhile (cs : List Char) : ∀ c ∈ (cs.dropWhile p).head?, p c = false := by
  intro c hc
  have hn := List.head?_dropWhile_not p cs
  rw [Option.mem_def.mp hc] at hn
  simpa using hn

theorem runs_eq_cons {cs : List Char} (h : cs.takeWhile p ≠ []) :
    runs p cs = cs.takeWhile p :: runs p (cs.dropWhile p) := by
  have hone : runs p (cs.takeWhile p) = [cs.takeWhile p] :=
    runs_of_forall h (List.all_eq_true.mp List.all_takeWhile)
  have hcut := List.takeWhile_append_dropWhile (p := p) (l := cs)
  cases hd : cs.dropWhile p with
  | nil =>
    rw [hd, List.append_nil] at hcut
    rw [hcut] at hone ⊢
    exact hone
  | cons c rest =>
    have hc : p c = false := head?_dropWhile cs c (by rw [hd]; rfl)
    calc runs p cs
        = runs p (cs.takeWhile p ++ c :: rest) := by rw [← hd, hcut]
      _ = [cs.takeWhile p] ++ runs p rest := by rw [runs_append_cons hc, hone]
      _ = cs.takeWhile p :: runs p (c :: rest) := by rw [runs_cons_of_neg hc]; rfl

theorem runs_dropWhile {q : Char → Bool} (hq : ∀ c, q c = true → p c = false) (cs : List Char) :
    runs p (cs.dropWhile q) = runs p cs := by
  induction cs with
  | nil => rfl
  | cons c cs ih =>
    rw [List.dropWhile_cons]
    split
    · rename_i hc
      rw [ih, runs_cons_of_neg (hq c hc)]
    · rfl

end Runs

theorem getLast?_cons_or (c : Char) (cs : List Char) (before : Option Char) :
    (c :: cs).getLast?.or before = cs.getLast?.or (some c) := by
  rw [List.getLast?_cons]
  cases cs.getLast? <;> rfl

namespace Pattern

/-- What is found is the match at the first place that has one. -/
theorem findFrom_eq (p : Pattern) (before : Option Char) (cs : List Char) :
    p.findFrom before cs = (List.range (cs.length + 1)).findSome? fun i =>
      p.matchAt ((cs.take i).getLast?.or before) (cs.drop i) := by
  induction cs generalizing before with
  | nil =>
    rw [findFrom]
    cases h : p.matchAt before [] <;> simp [h]
  | cons c rest ih =>
    rw [findFrom, List.length_cons, List.range_succ_eq_map, List.findSome?_cons, List.findSome?_map,
      ih]
    simp only [Function.comp_def, List.take_zero, List.getLast?_nil, Option.none_or, List.drop_zero,
      Nat.succ_eq_add_one, List.take_succ_cons, getLast?_cons_or, List.drop_succ_cons]
    cases p.matchAt before (c :: rest) <;> rfl

end Pattern

def Place.pass (s : Place) (p : Char → Bool) : Place :=
  { s with before := (s.rest.takeWhile p).getLast?.or s.before, rest := s.rest.dropWhile p }

section Pass

variable {p : Char → Bool} {c : Char} (before : Option Char) (rest : List Char)
  (kept : List (String × List Char))

theorem Place.pass_cons_of_pos (hc : p c = true) :
    Place.pass ⟨before, c :: rest, kept⟩ p = Place.pass ⟨some c, rest, kept⟩ p := by
  simp only [pass, List.takeWhile_cons_of_pos hc, List.dropWhile_cons_of_pos hc, getLast?_cons_or]

theorem Place.pass_cons_of_neg (hc : p c = false) :
    Place.pass ⟨before, c :: rest, kept⟩ p = ⟨before, c :: rest, kept⟩ := by
  have hn : ¬ p c = true := by rw [hc]; exact Bool.false_ne_true
  simp only [pass, List.takeWhile_cons_of_neg hn, List.dropWhile_cons_of_neg hn, List.getLast?_nil,
    Option.none_or]

end Pass

/-- The end of a word is a place where a word begins or ends. -/
theorem atBoundary_pass {s : Place} (h : wordOf s.rest ≠ []) :
    (s.pass isWordChar).atBoundary = true := by
  have hbefore : (s.pass isWordChar).before.any isWordChar = true :=
    any_getLast? (List.all_eq_true.mp List.all_takeWhile) h s.before
  have hrest : (s.pass isWordChar).rest.head?.any isWordChar = false := by
    rw [← Bool.not_eq_true, Option.any_eq_true]
    rintro ⟨c, hc, hword⟩
    rw [head?_dropWhile s.rest c hc] at hword
    cases hword
  rw [Place.atBoundary, hbefore, hrest]
  rfl

namespace Pattern

variable {α : Type} {s : Place} {k : Place → Option α}

theorem run_either (p q : Pattern) : (either p q).run s k = (p.run s k).or (q.run s k) := by
  rw [run]
  cases p.run s k <;> rfl

theorem run_digit (before : Option Char) (rest : List Char) (kept : List (String × List Char)) :
    digit.run ⟨before, rest, kept⟩ k =
      match rest with
      | [] => none
      | c :: rest => if Text.isDigit c = true then k ⟨some c, rest, kept⟩ else none := rfl

/-- All characters of a kind are taken if what follows them cannot begin with one of the kind. -/
theorem rounds_one {p : Char → Bool} (hk : ∀ t, t.rest.head?.any p = true → k t = none) {n : Nat}
    (hn : s.rest.length ≤ n) :
    rounds (fun t k => (one p).run t k) n s k = k (s.pass p) := by
  obtain ⟨before, rest, kept⟩ := s
  induction rest generalizing before n with
  | nil => cases n <;> rfl
  | cons c rest ih =>
    cases n with
    | zero => exact absurd hn (Nat.not_succ_le_zero _)
    | succ n =>
      rw [rounds]
      cases hc : p c with
      | true =>
        have hstep : (one p).run ⟨before, c :: rest, kept⟩ (fun t =>
            if t.rest.length < (c :: rest).length then
              rounds (fun t k => (one p).run t k) n t k else none) = _ :=
          (if_pos hc).trans ((if_pos (Nat.lt_succ_self rest.length)).trans
            (ih (some c) (Nat.le_of_succ_le_succ hn)))
        rw [hstep, Place.pass_cons_of_pos before rest kept hc]
        split
        · rename_i a ha
          exact ha.symm
        · rename_i ha
          exact (hk _ (by simp [hc])).trans ha.symm
      | false =>
        rw [Place.pass_cons_of_neg before rest kept hc]
        simp only [run, hc, Bool.false_eq_true, if_false]

theorem run_blanks (hk : ∀ t, t.rest.head?.any isBlank = true → k t = none) :
    blanks.run s k = if s.rest.head?.any isBlank = true then k (s.pass isBlank) else none := by
  obtain ⟨before, rest, kept⟩ := s
  cases rest with
  | nil => rfl
  | cons c rest =>
    by_cases hc : isBlank c = true
    · have hstep : blanks.run ⟨before, c :: rest, kept⟩ k = _ :=
        (if_pos hc).trans (rounds_one hk (Nat.le_refl _))
      rw [hstep, Place.pass_cons_of_pos before rest kept hc]
      exact (if_pos hc).symm
    · exact (if_neg hc).trans (if_neg hc).symm

theorem run_literal (word : String) : (literal word).run s k =
    if word.toList <+: s.rest then
      k { s with before := word.toList.getLast?.or s.before
                 rest := s.rest.drop word.toList.length } else none := by
  unfold literal
  generalize word.toList = letters
  induction letters generalizing s with
  | nil => simp [run]
  | cons l letters ih =>
    obtain ⟨before, rest, kept⟩ := s
    cases rest with
    | nil => simp [run, char]
    | cons c rest =>
      rw [List.foldr_cons]
      by_cases hc : c = l
      · subst hc
        have hstep : ((char c).both (letters.foldr (fun c p => .both (char c) p) .empty)).run
            ⟨before, c :: rest, kept⟩ k = _ := (if_pos (beq_self_eq_true c)).trans ih
        simp only [hstep, List.cons_prefix_cons, true_and, List.length_cons, List.drop_succ_cons,
          getLast?_cons_or]
      · have hne : ¬ (c == l) = true := by simpa using hc
        rw [if_neg (by simp [Ne.symm hc])]
        exact if_neg hne

theorem run_literal_append (word word' : String) : (literal (word ++ word')).run s k =
    (literal word).run s fun t => (literal word').run t k := by
  unfold literal
  rw [String.toList_append, List.foldr_append]
  generalize word.toList = letters
  induction letters generalizing s with
  | nil => rfl
  | cons l letters ih =>
    have hrun (p : Pattern) (k : Place → Option α) :
        ((char l).both p).run s k = (char l).run s fun t => p.run t k := rfl
    rw [List.foldr_cons, List.foldr_cons, hrun, hrun]
    simp only [ih]

/-- Alternatives behind a literal are alternatives with it. -/
theorem run_literal_or (word : String) (k' : Place → Option α) :
    ((literal word).run s fun t => (k t).or (k' t)) =
      ((literal word).run s k).or ((literal word).run s k') := by
  simp only [run_literal]
  split
  · rfl
  · rfl

def StopsAtEnd (k : Place → Option α) : Prop :=
  ∀ t, t.before.any isWordChar = true → t.rest.head?.any isWordChar = true → k t = none

theorem stopsAtEnd_boundary (k : Place → Option α) : StopsAtEnd fun t => boundary.run t k :=
  fun t hbefore hrest => if_neg (by simp [Place.atBoundary, hbefore, hrest])

/-- A word is found where it is the whole word, if what follows it cannot begin within a word. -/
theorem run_word {word : String} (hne : word.toList ≠ [])
    (hw : ∀ c ∈ word.toList, isWordChar c = true) (hk : StopsAtEnd k) :
    (literal word).run s k =
      if wordOf s.rest = word.toList then k (s.pass isWordChar) else none := by
  obtain ⟨before, rest, kept⟩ := s
  rw [run_literal]
  by_cases hp : word.toList <+: rest
  · obtain ⟨rest, rfl⟩ := hp
    rw [if_pos (List.prefix_append _ rest)]
    dsimp only
    rw [List.drop_left]
    cases hr : rest.head?.any isWordChar with
    | true =>
      rw [if_neg (wordOf_append_ne hw hr)]
      exact hk _ (any_getLast? hw hne before) hr
    | false =>
      obtain ⟨hword, hbehind⟩ := wordOf_append hw hr
      rw [if_pos hword, Place.pass]
      dsimp only
      rw [← wordOf, ← behindWord, hword, hbehind]
  · rw [if_neg hp, if_neg]
    intro he
    exact hp (he ▸ List.takeWhile_prefix isWordChar)

theorem run_anyOf {texts : List String}
    (hw : ∀ word ∈ texts, word.toList ≠ [] ∧ word.toList.all isWordChar = true)
    (hk : StopsAtEnd k) : (anyOf texts).run s k =
      if wordOf s.rest ∈ texts.map String.toList then k (s.pass isWordChar) else none := by
  unfold anyOf
  induction texts with
  | nil =>
    obtain ⟨before, rest, kept⟩ := s
    cases rest <;> rfl
  | cons word texts ih =>
    obtain ⟨⟨hne, hword⟩, htexts⟩ := List.forall_mem_cons.mp hw
    have hfirst : (literal word).run s k = _ := run_word hne (List.all_eq_true.mp hword) hk
    cases texts with
    | nil =>
      rw [List.map_singleton, oneOf, hfirst]
      simp
    | cons word' texts =>
      have hrest : (oneOf ((word' :: texts).map literal)).run s k = _ := ih htexts
      have hmem : wordOf s.rest ∈ (word :: word' :: texts).map String.toList ↔
          wordOf s.rest = word.toList ∨ wordOf s.rest ∈ (word' :: texts).map String.toList :=
        List.mem_cons
      have heither : oneOf ((word :: word' :: texts).map literal) =
          either (literal word) (oneOf ((word' :: texts).map literal)) := rfl
      rw [heither, run_either, hrest, hfirst]
      by_cases he : wordOf s.rest = word.toList
      · rw [if_pos he, if_pos (hmem.mpr (.inl he))]
        split
        · exact Option.or_self
        · exact Option.or_none
      · simp only [he, hmem, if_false, false_or, Option.none_or]

/-- Where a word has to follow, the end of a word is no place for it. -/
theorem run_boundary (hk : ∀ t, t.rest.head?.any isWordChar = false → k t = none) :
    boundary.run s k = if s.before.any isWordChar = true then none else k s := by
  rw [run, Place.atBoundary]
  cases hhead : s.rest.head?.any isWordChar with
  | true => cases s.before.any isWordChar <;> rfl
  | false =>
    rw [hk s hhead]
    split <;> split <;> rfl

end Pattern

end BankQuery.Text
