import BankQuery.Proofs.Sql.Ordinary
import BankQuery.Proofs.Sql.Readers

/-!
# Reading operands

An ordinary name is read as a column, a name with an ordinary name in parentheses as a call, and a
placeholder as itself, each where the operand ends behind it. The first reading of an operand, as a
text of a named type, fails on all three.
-/

namespace BankQuery.Sql

open BankQuery.Sql.Parser

def endWords : List String :=
  ["AS", "FROM", "IN", "BETWEEN", "AND", "GROUP", "ORDER", "ASC", "DESC", "NULLS", "LIMIT"]

def endSymbols : List String := [",", ")", "=", "<>"]

def Token.endsOperand : Token → Bool
  | .symbol s => endSymbols.contains s
  | .word w => endWords.contains w.keyword
  | _ => false

/-- An operand that stands before these tokens ends there. -/
def Ended (ts : List Token) : Prop := ∀ t ∈ ts.head?, t.endsOperand = true

namespace Ended

variable {ts : List Token}

theorem nil : Ended [] := fun _ h => by cases h

theorem word {s : String} (hs : s ∈ endWords) (ts : List Token) :
    Ended (.word (.bare s) :: ts) := by
  have hsub : ∀ s ∈ endWords, s ∈ connectives := by decide
  rintro t ⟨⟩
  change endWords.contains (Word.bare s).keyword = true
  rw [keyword_of_connective (hsub s hs)]
  exact List.contains_iff_mem.mpr hs

theorem symbol {s : String} (hs : s ∈ endSymbols) (ts : List Token) :
    Ended (.symbol s :: ts) := by
  rintro t ⟨⟩
  exact List.contains_iff_mem.mpr hs

theorem symbol_ne (h : Ended ts) {s : String} (hs : s ∉ endSymbols) :
    ∀ t ∈ ts.head?, t ≠ .symbol s := by
  rintro t ht rfl
  exact hs (List.contains_iff_mem.mp (h _ ht))

theorem keyword_not_mem (h : Ended ts) (words : List String)
    (hw : ∀ word ∈ words, word ∉ "" :: endWords) : ∀ t ∈ ts.head?, t.keyword ∉ words := by
  intro t ht hm
  have hn := hw _ hm
  have he := h t ht
  cases t with
  | word w => exact hn (List.mem_cons_of_mem _ (List.contains_iff_mem.mp he))
  | _ => exact hn List.mem_cons_self

theorem keyword_ne (h : Ended ts) (word : String) (hw : word ∉ "" :: endWords) :
    ∀ t ∈ ts.head?, t.keyword ≠ word := fun t ht he =>
  h.keyword_not_mem [word] (by simpa using hw) t ht (by simp [he])

theorem symbol?_run (h : Ended ts) {s : String} (hs : s ∉ endSymbols) (d : Nat) :
    symbol? s d ts = some (false, ts) :=
  symbol?_run_of_ne (h.symbol_ne hs) d

theorem keyword?_run (h : Ended ts) {k : String} (hw : k ∉ "" :: endWords) (d : Nat) :
    keyword? k d ts = some (false, ts) :=
  keyword?_run_of_ne (h.keyword_ne k hw) d

theorem introduced?_eq_none (h : Ended ts) : ∀ t ∈ ts.head?, Grammar.introduced? t = none := by
  intro t ht
  have he := h t ht
  cases t with
  | string _ | hex _ => cases he
  | _ => rfl

end Ended

theorem ne_of_free {k word : String} (h : k ∉ reserved) (hw : word ∈ reserved) : k ≠ word :=
  fun he => h (he ▸ hw)

theorem not_mem_of_free {k : String} {words : List String} (h : k ∉ reserved)
    (hw : ∀ word ∈ words, word ∈ reserved) : k ∉ words :=
  fun hm => h (hw k hm)

namespace Grammar

variable {d : Nat} {w v : Word} {ts rest : List Token}

theorem wordType?_eq_none {k : String} (h : k ∉ reserved) : wordType? k = none := by
  have hl : typeWords.lookup k = none := by
    rw [List.lookup_eq_none_iff]
    intro p hp
    exact bne_iff_ne.mpr (ne_of_free h (by
      simp only [reserved, List.mem_append]
      exact .inl (.inr (List.mem_map_of_mem hp))))
  rw [wordType?, if_neg (ne_of_free h (by simp [reserved])),
    if_neg (ne_of_free h (by simp [reserved])),
    if_neg (not_or.mpr ⟨ne_of_free h (by simp [reserved]), ne_of_free h (by simp [reserved])⟩), hl]
  rfl

theorem readType_run {type : TypeName} (hw : w.keyword ∉ reserved)
    (ho : otherType d (.word w :: ts) = some (type, rest))
    (hr : ∀ t ∈ rest.head?, t ≠ .symbol "[") :
    readType d (.word w :: ts) = some (type, rest) := by
  have ha : arrayOf type d rest = some (type, rest) := by
    refine iterate_run (.last ?_)
    rw [bind_run, symbol?_run_of_ne hr]
    rfl
  have harray : w.keyword ≠ "ARRAY" := ne_of_free hw (by simp [reserved])
  simp only [readType, typeFrom, bind_run, rest_run, peek?_run, Option.bind_some, List.head?_cons,
    if_neg harray, wordType?_eq_none hw, ho, ha, pure_run, Bool.not_false, ensure_run]

theorem otherType_run (h : Ended ts) :
    otherType d (.word w :: ts) = some (.other (printNames [w.name]) [], ts) := by
  simp only [otherType, bind_run, path_run w (h.symbol_ne (s := ".") (by decide)),
    h.symbol?_run (s := "(") (by decide), Option.bind_some, Bool.false_eq_true, if_false, pure_run]

theorem modifiers_run : modifiers d (.word v :: .symbol ")" :: ts) =
    some ([((Token.word v).print, false)], ts) := by
  rw [modifiers, bind_run, iterate_run (b := ([((Token.word v).print, false)], true)) (r := ts)]
  · rfl
  · refine .more (b := ([((Token.word v).print, false)], false)) (m := .symbol ")" :: ts) rfl
      (by simp) ?_
    exact .more (b := ([((Token.word v).print, false)], true)) (m := ts) rfl (by simp) (.last rfl)

/-- What stands in parentheses behind a name may belong to a type, which is then no known one. -/
theorem otherType_run_of_call :
    otherType d (.word w :: .symbol "(" :: .word v :: .symbol ")" :: ts) =
      some (.other (printNames [w.name] ++ "(" ++ ", ".intercalate [(Token.word v).print] ++ ")") [],
        ts) := by
  have hp : path d (.word w :: .symbol "(" :: .word v :: .symbol ")" :: ts) =
      some ([w.name], .symbol "(" :: .word v :: .symbol ")" :: ts) :=
    path_run w (symbol_ne_symbol (by decide))
  simp only [otherType, bind_run, hp, symbol?_run_of_eq, modifiers_run, Option.bind_some, if_true,
    pure_run]
  rfl

theorem typedLiteral_run_of_word (g : Grammar) {text : String} (hw : w.keyword ∉ reserved)
    (ho : otherType d (.word w :: ts) = some (.other text [], rest)) (hr : Ended rest) :
    g.typedLiteral d (.word w :: ts) = none := by
  rw [typedLiteral, bind_run, readType_run hw ho (hr.symbol_ne (by decide))]
  rfl

theorem typedLiteral_run_of_placeholder (g : Grammar) (p : String) :
    g.typedLiteral d (.placeholder p :: ts) = none := rfl

theorem wordForm?_eq_none (g : Grammar) (hw : w.keyword ∉ reserved) (behind : List Token) :
    g.wordForm? w behind = none := by
  unfold wordForm?
  split
  case h_21 =>
    have hsession : w.keyword ∉ sessionWords :=
      not_mem_of_free hw (by simp [sessionWords, reserved])
    have htime : w.keyword ∉ timeWords := not_mem_of_free hw (by simp [timeWords, reserved])
    rw [if_neg (by simpa using hsession), if_neg (by simpa using htime)]
  all_goals
    rename_i h
    exact absurd h (ne_of_free hw (by simp [reserved]))

theorem namedForm_run (g : Grammar) (h : Ended ts) :
    g.namedForm w d ts = some (.column w.name, ts) := by
  unfold namedForm
  rw [bind_run, rest_run, Option.bind_some]
  cases ts with
  | nil => rfl
  | cons t ts =>
    have hi := h.introduced?_eq_none t rfl
    -- The cases of the point and of the parenthesis are excluded by these two.
    have hp := h.symbol_ne (s := ".") (by decide) t rfl
    have ho := h.symbol_ne (s := "(") (by decide) t rfl
    simp only [hi]
    rfl

theorem readOperand_run_of_plain {g : Grammar} {e : Expr} (ht : g.typedLiteral d ts = none)
    (hp : g.plainOperand d ts = some (e, rest)) (hr : Ended rest) :
    g.readOperand d ts = some (e, rest) := by
  simp only [readOperand, orElse_run, ht, Option.none_or, bind_run, hp, Option.bind_some,
    hr.keyword?_run (k := "COLLATE") (by decide), Bool.false_eq_true, if_false, pure_run]

theorem plainOperand_run_of_word (g : Grammar) (hw : w.keyword ∉ reserved) :
    g.plainOperand d (.word w :: ts) = g.namedForm w d ts := by
  simp only [plainOperand, bind_run, peek?_run, Option.bind_some, List.head?_cons, next_run,
    rest_run, wordForm?_eq_none g hw]

theorem readOperand_run_of_word (g : Grammar) (hw : w.keyword ∉ reserved) (h : Ended ts) :
    g.readOperand d (.word w :: ts) = some (.column w.name, ts) :=
  readOperand_run_of_plain (typedLiteral_run_of_word g hw (otherType_run h) h)
    ((plainOperand_run_of_word g hw).trans (namedForm_run g h)) h

theorem readOperand_run_of_placeholder (g : Grammar) (p : String) (h : Ended ts) :
    g.readOperand d (.placeholder p :: ts) = some (.placeholder p, ts) :=
  readOperand_run_of_plain (typedLiteral_run_of_placeholder g p) rfl h

theorem quantifier_run (g : Grammar) (h : ∀ t ∈ ts.head?, t.keyword ∉ ["ALL", "DISTINCT"]) :
    g.quantifier d ts = some ((.all, []), ts) := by
  have ha : ∀ t ∈ ts.head?, t.keyword ≠ "ALL" := fun t ht he => h t ht (by simp [he])
  have hd : ∀ t ∈ ts.head?, t.keyword ≠ "DISTINCT" := fun t ht he => h t ht (by simp [he])
  simp only [quantifier, bind_run, keyword?_run_of_ne ha, keyword?_run_of_ne hd, Option.bind_some,
    Bool.false_eq_true, if_false, pure_run]

def callOf (function column : Name) : Expr := .call [function] { arguments := [none] } [.column column]

theorem exprOrStar_run {g : Grammar} {e : Expr} (hs : starPath ts = none)
    (he : g.expr d ts = some (e, rest)) : g.exprOrStar d ts = some (e, rest) := by
  simp only [exprOrStar, bind_run, rest_run, Option.bind_some, hs, he]

theorem sortedArguments_run {g : Grammar}
    (he : g.expr d (.word v :: .symbol ")" :: ts) = some (.column v.name, .symbol ")" :: ts)) :
    g.sortedArguments d (.word v :: .symbol ")" :: ts) =
      some (([(none, .column v.name)], []), ts) := by
  have ha : g.argument d (.word v :: .symbol ")" :: ts) =
      some ((none, .column v.name), .symbol ")" :: ts) := by
    have hn : isNamedArgument (.word v :: .symbol ")" :: ts) = false := rfl
    have hs : starPath (.word v :: .symbol ")" :: ts) = none := rfl
    simp only [argument, bind_run, rest_run, Option.bind_some, hn, Bool.false_eq_true, if_false,
      exprOrStar_run hs he, pure_run]
  have hl : commaList g.argument d (.word v :: .symbol ")" :: ts) =
      some ([(none, .column v.name)], .symbol ")" :: ts) :=
    commaList_run_single ha (symbol_ne_symbol (by decide))
  have ho : g.orderBy d (.symbol ")" :: ts) = some ([], .symbol ")" :: ts) :=
    listAfter_run_of_ne _ (by rintro t ⟨⟩; decide) d
  have hc : symbol? ")" d (.word v :: .symbol ")" :: ts) =
      some (false, .word v :: .symbol ")" :: ts) :=
    symbol?_run_of_ne (word_ne_symbol ")") d
  simp only [sortedArguments, bind_run, hc, Option.bind_some, Bool.false_eq_true, if_false, hl, ho,
    symbol_run, pure_run]

theorem call_run {g : Grammar} (hv : v.keyword ∉ reserved) (h : Ended ts)
    (he : g.expr d (.word v :: .symbol ")" :: ts) = some (.column v.name, .symbol ")" :: ts)) :
    g.call [w.name] d (.symbol "(" :: .word v :: .symbol ")" :: ts) =
      some (callOf w.name v.name, ts) := by
  have hq : g.quantifier d (.word v :: .symbol ")" :: ts) =
      some ((.all, []), .word v :: .symbol ")" :: ts) :=
    quantifier_run g (by
      rintro t ⟨⟩
      exact not_mem_of_free hv (by simp [reserved]))
  have hf : g.filter? d ts = some (none, ts) := by
    simp only [filter?, bind_run, h.keyword?_run (k := "FILTER") (by decide), Option.bind_some,
      Bool.false_eq_true, if_false, pure_run]
  have hn : nullTreatment? d ts = some (none, ts) := by
    simp only [nullTreatment?, bind_run, Option.bind_some, pure_run,
      oneOf?_run_of_not_mem (h.keyword_not_mem ["RESPECT", "IGNORE"] (by decide))]
  have ho : g.over? d ts = some ((none, []), ts) := by
    simp only [over?, bind_run, h.keyword?_run (k := "OVER") (by decide), Option.bind_some,
      Bool.false_eq_true, if_false, pure_run]
  simp only [call, bind_run, symbol_run, Option.bind_some, hq, sortedArguments_run he, hf, hn,
    ho, pure_run]
  rfl

theorem readOperand_run_of_call {g : Grammar} (hw : w.keyword ∉ reserved)
    (hv : v.keyword ∉ reserved) (h : Ended ts)
    (he : g.expr d (.word v :: .symbol ")" :: ts) = some (.column v.name, .symbol ")" :: ts)) :
    g.readOperand d (.word w :: .symbol "(" :: .word v :: .symbol ")" :: ts) =
      some (callOf w.name v.name, ts) := by
  refine readOperand_run_of_plain (typedLiteral_run_of_word g hw otherType_run_of_call h) ?_ h
  rw [plainOperand_run_of_word g hw, namedForm, bind_run, rest_run, Option.bind_some]
  exact call_run hv h he

end Grammar

end BankQuery.Sql
