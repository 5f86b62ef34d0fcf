import BankQuery.Proofs.Sql.Ordinary

/-!
# Texts in pieces

A plain statement is its first word and then pieces, each of which begins with a blank or with
punctuation. A piece therefore ends the one before it, and the tokens of the text are the tokens of
its pieces one after the other, whatever the pieces are.
-/

namespace BankQuery.Sql

open Text

def holeName (n : Nat) : String := "$" ++ Nat.repr n

inductive Piece where
  | word (text : String)
  | hole (n : Nat)
  /-- A word behind an opening parenthesis. -/
  | openWord (text : String)
  /-- A placeholder behind an opening parenthesis, which stands apart from what is before it. -/
  | openHole (n : Nat)
  | comma
  | close
  | equals
  | differs

namespace Piece

def text : Piece → String
  | .word s => " " ++ s
  | .hole n => " " ++ holeName n
  | .openWord s => "(" ++ s
  | .openHole n => " (" ++ holeName n
  | .comma => ","
  | .close => ")"
  | .equals => " ="
  | .differs => " <>"

def tokens : Piece → List Token
  | .word s => [.word (.bare s)]
  | .hole n => [.placeholder (holeName n)]
  | .openWord s => [.symbol "(", .word (.bare s)]
  | .openHole n => [.symbol "(", .placeholder (holeName n)]
  | .comma => [.symbol ","]
  | .close => [.symbol ")"]
  | .equals => [.symbol "="]
  | .differs => [.symbol "<>"]

def IsValid : Piece → Prop
  | .word s => IsAllowed s
  | .openWord s => IsAllowed s
  | _ => True

end Piece

def spelled : List Piece → String
  | [] => ""
  | p :: ps => p.text ++ spelled ps

def textOf (ps : List Piece) : List Char := ps.flatMap fun p => p.text.toList

theorem toList_spelled (ps : List Piece) : (spelled ps).toList = textOf ps := by
  induction ps with
  | nil => rfl
  | cons p ps ih =>
    rw [spelled, String.toList_append, ih, textOf, textOf, List.flatMap_cons]

theorem spelled_append (ps qs : List Piece) : spelled (ps ++ qs) = spelled ps ++ spelled qs := by
  rw [← String.toList_inj, String.toList_append, toList_spelled, toList_spelled, toList_spelled,
    textOf, List.flatMap_append]
  rfl

/-- Characters that end a word or a placeholder. -/
def Starts (cs : List Char) : Prop := ∀ c ∈ cs.head?, c ∈ [' ', ',', '(', ')']

theorem starts_textOf (ps : List Piece) : Starts (textOf ps) := by
  intro c hc
  cases ps with
  | nil => cases hc
  | cons p ps =>
    cases p with
    | _ =>
      simp [textOf, Piece.text] at hc
      simp [← hc]

/-- Tokens of a text, cut off one by one. -/
inductive Lexed : List Char → List Token → Prop where
  | nil : Lexed [] []
  | blank {c : Char} {cs : List Char} {ts : List Token} (hc : isBlank c = true)
      (h : Lexed cs ts) : Lexed (c :: cs) ts
  | token {c : Char} {cs rest : List Char} {t : Token} {ts : List Token} (hc : isBlank c = false)
      (ht : readToken c cs = some (t, rest)) (hle : rest.length ≤ cs.length)
      (h : Lexed rest ts) : Lexed (c :: cs) (t :: ts)

theorem Lexed.lexFrom_eq {cs : List Char} {ts : List Token} (h : Lexed cs ts) :
    ∀ n, cs.length ≤ n → lexFrom n cs = some ts := by
  induction h with
  | nil => intro n _; cases n <;> rfl
  | blank hc _ ih =>
    intro n hn
    obtain ⟨n, rfl⟩ := Nat.exists_eq_add_of_le' (Nat.le_trans (Nat.succ_le_succ (Nat.zero_le _)) hn)
    rw [lexFrom, if_pos hc]
    exact ih n (Nat.le_of_succ_le_succ hn)
  | token hc ht hle _ ih =>
    intro n hn
    obtain ⟨n, rfl⟩ := Nat.exists_eq_add_of_le' (Nat.le_trans (Nat.succ_le_succ (Nat.zero_le _)) hn)
    rw [lexFrom, if_neg (by simp [hc]), ht]
    simp [ih n (Nat.le_trans hle (Nat.le_of_succ_le_succ hn))]

theorem Lexed.lex_eq {s : String} {ts : List Token} (h : Lexed s.toList ts) : lex s = some ts :=
  h.lexFrom_eq _ (Nat.le_of_eq String.length_toList)

theorem takeWhile_append_of_starts {p : Char → Bool} {cs rest : List Char}
    (hcs : ∀ c ∈ cs, p c = true) (hrest : ∀ c ∈ rest.head?, p c = false) :
    (cs ++ rest).takeWhile p = cs := by
  rw [List.takeWhile_append_of_pos hcs]
  cases rest with
  | nil => simp
  | cons c rest => simp [hrest c rfl]

theorem ne_of_isWordLetter {c d : Char} (h : isWordLetter c = true) (hd : isWordLetter d = false) :
    c ≠ d := by
  rintro rfl
  rw [h] at hd
  cases hd

theorem readToken_word {c : Char} {rest : List Char} (h : isWordLetter c = true)
    (hd : c.isDigit = false) (hr : ∀ d ∈ rest.head?, d ≠ '\'') :
    readToken c rest = some (readWord c rest) := by
  have hs := (classes_of_isWordLetter h).2.2.2 hd
  have hn (d : Char) (hd : isWordLetter d = false) : c ≠ d := ne_of_isWordLetter h hd
  unfold readToken
  rw [if_neg (hn _ (by decide)), if_neg (not_or.mpr ⟨hn _ (by decide), hn _ (by decide)⟩),
    if_neg (not_or.mpr ⟨by simp [hd], hn _ (by decide)⟩), if_neg (hn _ (by decide)),
    if_neg (hn _ (by decide)), if_pos hs]
  split
  · rename_i quoted
    exact absurd rfl (hr '\'' rfl)
  · rfl

theorem Starts.classes {rest : List Char} (h : Starts rest) : ∀ c ∈ rest.head?,
    isNamePart c = false ∧ (isAlphanumeric c || c == '_') = false ∧ isWordChar c = false ∧
      c ≠ '\'' ∧ c ≠ '$' ∧ c ≠ '=' ∧ c ≠ '>' := by
  intro c hc
  have hm := h c hc
  simp only [List.mem_cons, List.not_mem_nil, or_false] at hm
  rcases hm with rfl | rfl | rfl | rfl
  all_goals decide

theorem isAlphanumeric_of_isDigit {c : Char} (h : c.isDigit = true) :
    (isAlphanumeric c || c == '_') = true := by
  have hdigits : ∀ n < 58, 48 ≤ n → (isAlphanumeric (Char.ofNat n) || Char.ofNat n == '_') = true := by
    decide
  simp only [Char.isDigit, Bool.and_eq_true, decide_eq_true_eq] at h
  have hc := hdigits c.val.toNat (Nat.lt_succ_of_le h.2) h.1
  rwa [show Char.ofNat c.val.toNat = c from Char.ofNat_toNat c] at hc

theorem isDigit_of_mem_repr {n : Nat} {c : Char} (hc : c ∈ (Nat.repr n).toList) :
    c.isDigit = true := by
  rw [Nat.toList_repr] at hc
  exact Nat.isDigit_of_mem_toDigits (by decide) (by decide) hc

namespace Lexed

variable {rest : List Char} {ts : List Token}

theorem word {s : String} (hs : IsWord s) (hr : Starts rest) (h : Lexed rest ts) :
    Lexed (s.toList ++ rest) (.word (.bare s) :: ts) := by
  cases hc : s.toList with
  | nil => exact absurd hc hs.nonempty
  | cons c cs =>
    have hletters : ∀ d ∈ c :: cs, isWordLetter d = true := hc ▸ hs.letters
    have hcs : ∀ d ∈ cs, isNamePart d = true := fun d hd =>
      (classes_of_isWordLetter (hletters d (List.mem_cons_of_mem c hd))).1
    have hq : ∀ d ∈ (cs ++ rest).head?, d ≠ '\'' := by
      cases cs with
      | nil => exact fun d hd => (hr.classes d hd).2.2.2.1
      | cons e es =>
        intro d hd
        cases hd
        exact ne_of_isWordLetter (hletters e (by simp)) (by decide)
    have hd : c.isDigit = false := hs.first c (by rw [hc]; rfl)
    have hpart := takeWhile_append_of_starts hcs fun d hd => (hr.classes d hd).1
    have ht : readToken c (cs ++ rest) = some (.word (.bare s), rest) := by
      rw [readToken_word (hletters c List.mem_cons_self) hd hq, readWord, hpart, List.drop_left, ← hc,
        String.ofList_toList]
    exact .token (classes_of_isWordLetter (hletters c List.mem_cons_self)).2.2.1 ht (by simp) h

theorem hole (n : Nat) (hr : Starts rest) (h : Lexed rest ts) :
    Lexed ((holeName n).toList ++ rest) (.placeholder (holeName n) :: ts) := by
  have hdigits : ∀ c ∈ (Nat.repr n).toList, c.isDigit = true := fun _ => isDigit_of_mem_repr
  have htag := takeWhile_append_of_starts (p := fun c => isAlphanumeric c || c == '_')
    (fun c hc => isAlphanumeric_of_isDigit (hdigits c hc)) fun c hc => (hr.classes c hc).2.1
  have hrest : readDollar ((Nat.repr n).toList ++ rest) =
      some (.placeholder (holeName n), rest) := by
    unfold readDollar
    split
    · rename_i others hd
      cases hn : (Nat.repr n).toList with
      | nil => simp at hn
      | cons c cs =>
        rw [hn, List.cons_append, List.cons.injEq] at hd
        have hc := hdigits c (by simp [hn])
        rw [hd.1] at hc
        cases hc
    · rw [htag]
      dsimp only
      rw [List.drop_left]
      split
      · exact absurd rfl (hr.classes '$' rfl).2.2.2.2.1
      · have hname : String.ofList ('$' :: (Nat.repr n).toList) = holeName n := by
          rw [← String.toList_inj]
          simp [holeName]
        rw [hname]
  rw [holeName, String.toList_append]
  exact .token (by decide) hrest (by simp) h

theorem symbol {c : Char} (cs : List Char) {text : String} (hc : isBlank c = false)
    (ht : readToken c (cs ++ rest) = some (.symbol text, rest)) (h : Lexed rest ts) :
    Lexed (c :: cs ++ rest) (.symbol text :: ts) :=
  .token hc ht (by simp) h

theorem piece {p : Piece} (hp : p.IsValid) (hr : Starts rest) (h : Lexed rest ts) :
    Lexed (p.text.toList ++ rest) (p.tokens ++ ts) := by
  have hblank : isBlank ' ' = true := by decide
  cases p with
  | word s =>
    rw [Piece.text, String.toList_append]
    exact .blank hblank (.word hp.toIsWord hr h)
  | hole n =>
    rw [Piece.text, String.toList_append]
    exact .blank hblank (.hole n hr h)
  | openWord s =>
    rw [Piece.text, String.toList_append]
    exact .symbol [] (by decide) rfl (.word hp.toIsWord hr h)
  | openHole n =>
    rw [Piece.text, String.toList_append]
    exact .blank hblank (.symbol [] (by decide) rfl (.hole n hr h))
  | comma => exact .symbol [] (by decide) rfl h
  | close => exact .symbol [] (by decide) rfl h
  | equals =>
    refine .blank hblank (.symbol [] (by decide) ?_ h)
    cases rest with
    | nil => rfl
    | cons c rest =>
      have hm := hr c rfl
      simp only [List.mem_cons, List.not_mem_nil, or_false] at hm
      rcases hm with rfl | rfl | rfl | rfl <;> rfl
  | differs => exact .blank hblank (.symbol ['>'] (by decide) rfl h)

end Lexed

/-- The tokens of a text are those of its pieces. -/
theorem lexed_textOf {ps : List Piece} (h : ∀ p ∈ ps, p.IsValid) :
    Lexed (textOf ps) (ps.flatMap Piece.tokens) := by
  induction ps with
  | nil => exact .nil
  | cons p ps ih =>
    rw [textOf, List.flatMap_cons, List.flatMap_cons]
    exact .piece (h p List.mem_cons_self) (starts_textOf ps)
      (ih fun q hq => h q (List.mem_cons_of_mem p hq))

theorem lex_eq {s first : String} {ps : List Piece} (hs : s.toList = first.toList ++ textOf ps)
    (hfirst : IsWord first) (h : ∀ p ∈ ps, p.IsValid) :
    lex s = some (.word (.bare first) :: ps.flatMap Piece.tokens) :=
  Lexed.lex_eq (hs ▸ .word hfirst (starts_textOf ps) (lexed_textOf h))

end BankQuery.Sql
