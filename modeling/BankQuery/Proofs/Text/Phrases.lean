import BankQuery.Proofs.Text.Scan

/-!
# Phrases of words

A pattern of whole words with blanks between them does at each place what a reading of the text
there does, word by word. `Takes` relates the two: going on with the pattern keeps the words that the
reading gives. Since a word begins where no word character stands before it, the first match of the
pattern is the first reading at such a place: `Takes.find`.
-/

namespace BankQuery.Phrase

open Text Text.Pattern

def behindBlanks? (cs : List Char) : Option (List Char) :=
  if cs.head?.any isBlank = true then some (cs.dropWhile isBlank) else none

variable {α β : Type}

def behindWord? (texts : List String) (f : List Char → Option α) (cs : List Char) : Option α :=
  if (texts.map String.toList).contains (wordOf cs) then (behindBlanks? (behindWord cs)).bind f
  else none

def perhapsBehind? (texts : List String) (f : List Char → Option α) (cs : List Char) : Option α :=
  (behindWord? texts f cs).or (f cs)

def word? (q : List Char → Bool) (cs : List Char) : Option (List Char) :=
  if q (wordOf cs) = true then some (wordOf cs) else none

/-- What is read at the first place that has no word character before it and is readable. -/
def firstAt? (f : List Char → Option α) (cs : List Char) : Option α :=
  (List.range (cs.length + 1)).findSome? fun i =>
    if (cs.take i).getLast?.any isWordChar = true then none else f (cs.drop i)

section Read

variable {f : List Char → Option α} {cs : List Char} {a : α}

theorem behindWord?_eq (texts : List String) : behindWord? texts f cs =
    if wordOf cs ∈ texts.map String.toList then (behindBlanks? (behindWord cs)).bind f
    else none := by
  simp only [behindWord?, List.contains_iff_mem]

theorem of_firstAt? (h : firstAt? f cs = some a) : ∃ rest, f rest = some a := by
  obtain ⟨i, -, h⟩ := List.exists_of_findSome?_eq_some h
  split at h
  · cases h
  · exact ⟨_, h⟩

theorem of_behindWord? {texts : List String} (h : behindWord? texts f cs = some a) :
    ∃ rest, f rest = some a := by
  unfold behindWord? at h
  split at h
  · obtain ⟨rest, -, h⟩ := Option.bind_eq_some_iff.mp h
    exact ⟨rest, h⟩
  · cases h

theorem of_perhapsBehind? {texts : List String} (h : perhapsBehind? texts f cs = some a) :
    ∃ rest, f rest = some a := by
  rcases Option.or_eq_some_iff.mp h with h | ⟨-, h⟩
  · exact of_behindWord? h
  · exact ⟨cs, h⟩

theorem of_word? {q : List Char → Bool} {w : List Char} (h : word? q cs = some w) : q w = true := by
  unfold word? at h
  split at h
  · rename_i hq
    cases h
    exact hq
  · cases h

end Read

theorem wordOf_of_isBlank {cs : List Char} (h : cs.head?.any isBlank = true) : wordOf cs = [] := by
  apply wordOf_eq_nil
  cases cs with
  | nil => rfl
  | cons c rest => exact not_isWordChar_of_isBlank h

theorem behindBlanks?_of_isWordChar {cs : List Char} (h : cs.head?.any isWordChar = true) :
    behindBlanks? cs = none := by
  apply if_neg
  intro hb
  cases cs with
  | nil => cases h
  | cons c rest =>
    have hc : isWordChar c = false := not_isWordChar_of_isBlank hb
    rw [List.head?_cons, Option.any_some, hc] at h
    cases h

/-- The pattern finds exactly the words of a kind. -/
def ReadsWord (p : Pattern) (q : List Char → Bool) : Prop :=
  ∀ (s : Place) (k : Place → Option Place), StopsAtEnd k →
    p.run s k = if q (wordOf s.rest) = true then k (s.pass isWordChar) else none

theorem readsWord_anyOf {texts : List String}
    (hw : ∀ word ∈ texts, word.toList ≠ [] ∧ word.toList.all isWordChar = true) :
    ReadsWord (anyOf texts) fun w => (texts.map String.toList).contains w := by
  intro s k hk
  rw [run_anyOf hw hk]
  simp only [List.contains_iff_mem]

theorem ReadsWord.either {p p' : Pattern} {q q' : List Char → Bool} (hp : ReadsWord p q)
    (hp' : ReadsWord p' q') : ReadsWord (.either p p') fun w => q w || q' w := by
  intro s k hk
  rw [run_either, hp s k hk, hp' s k hk]
  simp only [Bool.or_eq_true]
  by_cases hq : q (wordOf s.rest) = true
  · by_cases hq' : q' (wordOf s.rest) = true
    · simp only [hq, hq', or_self, if_true, Option.or_self]
    · simp only [hq, hq', true_or, if_true, Option.or_none, if_false, Bool.false_eq_true]
  · simp only [hq, false_or, if_false, Option.none_or, Bool.false_eq_true]

theorem isWordChar_of_isDigit {c : Char} (h : isDigit c = true) : isWordChar c = true := by
  simp [isWordChar, h]

/-- Within a word, what stops at the end of a word goes on only there. -/
theorem eq_of_stopsAtEnd {s : Place} {k : Place → Option α} (hs : s.before.any isWordChar = true)
    (hk : StopsAtEnd k) : k s = if wordOf s.rest = [] then k (s.pass isWordChar) else none := by
  obtain ⟨before, rest, kept⟩ := s
  cases rest with
  | nil => rfl
  | cons c rest =>
    by_cases hc : isWordChar c = true
    · have hne : wordOf (c :: rest) ≠ [] := by
        rw [wordOf, List.takeWhile_cons_of_pos hc]
        exact List.cons_ne_nil c _
      rw [if_neg hne]
      exact hk _ hs hc
    · rw [Place.pass_cons_of_neg before rest kept (by simpa using hc), wordOf,
        List.takeWhile_cons_of_neg hc, if_pos rfl]

/-- Within a word, the pattern finds up to `n` digits that end it. -/
def ReadsDigits (p : Pattern) (n : Nat) : Prop :=
  ∀ (s : Place) (k : Place → Option Place), s.before.any isWordChar = true → StopsAtEnd k →
    p.run s k = if (wordOf s.rest).length ≤ n ∧ (wordOf s.rest).all isDigit = true then
      k (s.pass isWordChar) else none

theorem readsDigits_empty : ReadsDigits .empty 0 := by
  intro s k hs hk
  rw [run, eq_of_stopsAtEnd hs hk]
  cases wordOf s.rest <;> simp

/-- One more digit, if there is one. -/
theorem ReadsDigits.option {p : Pattern} {n : Nat} (hp : ReadsDigits p n) :
    ReadsDigits (Pattern.option (digit ++ p)) (n + 1) := by
  intro s k hs hk
  have hrun : (Pattern.option (digit ++ p)).run s k = (digit.run s fun t => p.run t k).or (k s) :=
    run_either _ _
  rw [hrun, eq_of_stopsAtEnd hs hk]
  obtain ⟨before, rest, kept⟩ := s
  cases rest with
  | nil => simp [run_digit, wordOf]
  | cons c rest =>
    by_cases hc : isDigit c = true
    · have hword := isWordChar_of_isDigit hc
      rw [run_digit]
      simp only [hc, if_true]
      rw [hp ⟨some c, rest, kept⟩ k hword hk, Place.pass_cons_of_pos before rest kept hword]
      simp [wordOf, List.takeWhile_cons_of_pos hword, hc]
    · rw [run_digit]
      by_cases hword : isWordChar c = true
      · simp [wordOf, List.takeWhile_cons_of_pos hword, hc]
      · simp [wordOf, List.takeWhile_cons_of_neg hword, hc]

def isNumber (n : Nat) (w : List Char) : Bool := !w.isEmpty && w.length ≤ n && w.all isDigit

theorem ReadsDigits.readsWord {p : Pattern} {n : Nat} (hp : ReadsDigits p n) :
    ReadsWord (digit ++ p) (isNumber (n + 1)) := by
  intro s k hk
  have hrun : (digit ++ p).run s k = digit.run s fun t => p.run t k := rfl
  rw [hrun]
  obtain ⟨before, rest, kept⟩ := s
  rw [run_digit]
  cases rest with
  | nil => rfl
  | cons c rest =>
    by_cases hc : isDigit c = true
    · have hword := isWordChar_of_isDigit hc
      simp only [hc, if_true]
      rw [hp ⟨some c, rest, kept⟩ k hword hk, Place.pass_cons_of_pos before rest kept hword]
      simp [isNumber, wordOf, List.takeWhile_cons_of_pos hword, hc]
    · by_cases hword : isWordChar c = true
      · simp [isNumber, wordOf, List.takeWhile_cons_of_pos hword, hc]
      · simp [isNumber, wordOf, List.takeWhile_cons_of_neg hword, hc]

/-- Going on with `k` keeps the pieces of what `f` reads in the rest of the text. -/
def Takes (k : Place → Option Place) (f : List Char → Option α)
    (pieces : α → List (String × List Char)) : Prop :=
  ∀ t, (k t).map Place.kept = (f t.rest).map fun a => pieces a ++ t.kept

section Takes

variable {k : Place → Option Place} {f : List Char → Option α}
  {pieces : α → List (String × List Char)}

theorem Takes.eq_none (h : Takes k f pieces) {t : Place} (ht : f t.rest = none) : k t = none := by
  have hk := h t
  rwa [ht, Option.map_none, Option.map_eq_none_iff] at hk

theorem Takes.map (h : Takes k f pieces) (g : α → β) (pieces' : β → List (String × List Char))
    (hg : ∀ a, pieces' (g a) = pieces a) : Takes k (fun cs => (f cs).map g) pieces' := by
  intro t
  rw [h t, Option.map_map]
  simp only [Function.comp_def, hg]

theorem Takes.or {k' : Place → Option Place} {f' : List Char → Option α} (h : Takes k f pieces)
    (h' : Takes k' f' pieces) :
    Takes (fun t => (k t).or (k' t)) (fun cs => (f cs).or (f' cs)) pieces := by
  intro t
  rw [Option.map_or, Option.map_or, h t, h' t]

theorem Takes.behindBlanks (h : Takes k f pieces) (hf : ∀ cs, wordOf cs = [] → f cs = none) :
    Takes (fun t => blanks.run t k) (fun cs => (behindBlanks? cs).bind f) pieces := by
  intro t
  dsimp only
  rw [run_blanks fun t ht => h.eq_none (hf t.rest (wordOf_of_isBlank ht)), behindBlanks?]
  split
  · exact h (t.pass isBlank)
  · rfl

theorem Takes.behindWord (h : Takes k f pieces) {texts : List String}
    (hw : ∀ word ∈ texts, word.toList ≠ [] ∧ word.toList.all isWordChar = true)
    (hf : ∀ cs, cs.head?.any isWordChar = true → f cs = none) :
    Takes (fun t => (anyOf texts).run t k) (fun cs =>
      if wordOf cs ∈ texts.map String.toList then f (behindWord cs) else none) pieces := by
  intro t
  dsimp only
  rw [run_anyOf hw fun t _ ht => h.eq_none (hf t.rest ht)]
  split
  · exact h (t.pass isWordChar)
  · rfl

/-- One of the words, blanks, and what `k` goes on with. -/
theorem Takes.behindWord? (h : Takes k f pieces) (texts : List String)
    (hw : ∀ word ∈ texts, word.toList ≠ [] ∧ word.toList.all isWordChar = true)
    (hf : ∀ cs, wordOf cs = [] → f cs = none) :
    Takes (fun t => (anyOf texts).run t fun t => blanks.run t k) (behindWord? texts f) pieces := by
  intro t
  rw [behindWord?_eq]
  refine (h.behindBlanks hf).behindWord hw (fun cs hcs => ?_) t
  rw [behindBlanks?_of_isWordChar hcs, Option.bind_none]

/-- An option of words before what `k` goes on with. -/
theorem Takes.perhapsBehind? (h : Takes k f pieces) (texts : List String)
    (hw : ∀ word ∈ texts, word.toList ≠ [] ∧ word.toList.all isWordChar = true)
    (hf : ∀ cs, wordOf cs = [] → f cs = none) :
    Takes (fun t => (option (anyOf texts ++ blanks)).run t k) (perhapsBehind? texts f) pieces := by
  have hor := (h.behindWord? texts hw hf).or h
  intro t
  have hrun : (option (anyOf texts ++ blanks)).run t k =
      ((anyOf texts).run t fun t => blanks.run t k).or (k t) := run_either _ _
  exact (congrArg (Option.map Place.kept) hrun).trans (hor t)

/-- A word of the kind is kept where it is the whole word. -/
theorem run_keep {p : Pattern} {q : List Char → Bool} (hp : ReadsWord p q) {label : String}
    (hk : StopsAtEnd k) (t : Place) : (Pattern.keep label p).run t k =
      if q (wordOf t.rest) = true then
        k { t.pass isWordChar with kept := (label, wordOf t.rest) :: t.kept } else none := by
  have hrun : (Pattern.keep label p).run t k = _ :=
    hp t (fun u => k { u with
        kept := (label, t.rest.take (t.rest.length - u.rest.length)) :: u.kept })
      fun u hbefore hrest => hk _ hbefore hrest
  have hcut : t.rest.take (t.rest.length - (t.pass isWordChar).rest.length) = wordOf t.rest :=
    take_wordOf t.rest
  rw [hrun, hcut]
  rfl

theorem Takes.keep {p : Pattern} {q : List Char → Bool} (hp : ReadsWord p q) (label : String)
    (h : Takes k f pieces) (hf : ∀ cs, cs.head?.any isWordChar = true → f cs = none) :
    Takes (fun t => (Pattern.keep label p).run t k)
      (fun cs => (word? q cs).bind fun w => (f (Text.behindWord cs)).map fun a => (w, a))
      fun a => pieces a.2 ++ [(label, a.1)] := by
  intro t
  dsimp only
  rw [run_keep hp fun u _ hu => h.eq_none (hf u.rest hu), word?]
  split
  · have hrest : (t.pass isWordChar).rest = Text.behindWord t.rest := rfl
    rw [h _, Option.bind_some, Option.map_map, hrest]
    simp only [Function.comp_def, List.append_assoc, List.singleton_append]
  · rfl

/-- A word at the end of a pattern. -/
theorem takes_last {p : Pattern} {q : List Char → Bool} (hp : ReadsWord p q) (label : String)
    (hne : q [] = false) :
    Takes (fun t => (Pattern.keep label p).run t fun t => boundary.run t some) (word? q)
      fun w => [(label, w)] := by
  intro t
  dsimp only
  rw [run_keep hp (stopsAtEnd_boundary some), word?]
  split
  · rename_i hq
    have hword : wordOf t.rest ≠ [] := fun he => by simp [he, hne] at hq
    have hend : (t.pass isWordChar).atBoundary = true := atBoundary_pass hword
    exact congrArg (Option.map Place.kept) (if_pos hend)
  · rfl

end Takes

/-- Two searches that agree on what they keep find nothing or both something. -/
theorem find_cases {γ : Type} {x : Option α} {y : Option β} {g : α → γ} {g' : β → γ}
    (h : x.map g = y.map g') :
    (x = none ∧ y = none) ∨ ∃ a b, x = some a ∧ y = some b ∧ g a = g' b := by
  cases x with
  | none => exact .inl ⟨rfl, Option.map_eq_none_iff.mp h.symm⟩
  | some a =>
    obtain ⟨b, hb, he⟩ := Option.map_eq_some_iff.mp h.symm
    exact .inr ⟨a, b, rfl, hb, he.symm⟩

/-- The pattern finds what is read at the first readable place where a word may begin. -/
theorem Takes.find {k : Place → Option Place} {f : List Char → Option α}
    {pieces : α → List (String × List Char)} (h : Takes k f pieces) {p : Pattern}
    (hp : ∀ s, p.run s some = boundary.run s k) (hf : ∀ cs, wordOf cs = [] → f cs = none)
    (s : String) : (p.find s).map (·.stop.kept) = (firstAt? f s.toList).map pieces := by
  have hat (before : Option Char) (cs : List Char) : (p.matchAt before cs).map (·.stop.kept) =
      (if before.any isWordChar = true then none else f cs).map pieces := by
    have hrun : p.run ⟨before, cs, []⟩ some =
        if before.any isWordChar = true then none else k ⟨before, cs, []⟩ := by
      rw [hp, run_boundary]
      exact fun t ht => h.eq_none (hf t.rest (wordOf_eq_nil ht))
    rw [matchAt, Option.map_map, hrun]
    split
    · rfl
    · refine Eq.trans ?_ ((h ⟨before, cs, []⟩).trans ?_)
      · rfl
      · simp only [List.append_nil]
  rw [Pattern.find, findFrom_eq, firstAt?, List.map_findSome?, List.map_findSome?]
  congr 1
  funext i
  rw [Function.comp_apply, Function.comp_apply, hat, Option.or_none]

end BankQuery.Phrase
