import BankQuery.Proofs.Sql.Operands
import BankQuery.Proofs.Sql.Pieces
import BankQuery.Sql.Grammar.Statement

/-!
# Reading conditions

A test compares a column with placeholders; a condition is one test or several that all have to
hold. The reading of a condition takes its tests from left to right, so that each is joined to all
those before it.
-/

namespace BankQuery.Sql

open BankQuery.Sql.Parser

inductive Test where
  | equals (column : String) (hole : Nat)
  | differs (column : String) (hole : Nat)
  | within (column : String) (hole : Nat) (holes : List Nat)
  | between (column : String) (low high : Nat)

namespace Test

def column : Test → String
  | .equals c _ | .differs c _ | .within c _ _ | .between c _ _ => c

def holes : Test → List Nat
  | .equals _ n | .differs _ n => [n]
  | .within _ n ns => n :: ns
  | .between _ low high => [low, high]

def behind : Test → List Piece
  | .equals _ n => [.equals, .hole n]
  | .differs _ n => [.differs, .hole n]
  | .within _ n ns =>
    .word "IN" :: .openHole n :: ns.flatMap (fun m => [.comma, .hole m]) ++ [.close]
  | .between _ low high => [.word "BETWEEN", .hole low, .word "AND", .hole high]

def pieces (t : Test) : List Piece := .word t.column :: t.behind

end Test

def columnOf (c : String) : Expr := .column ⟨c, none⟩

def holeOf (n : Nat) : Expr := .placeholder (holeName n)

def Test.expr : Test → Expr
  | .equals c n => .binary (.compare .eq) (columnOf c) (holeOf n)
  | .differs c n => .binary (.other "<>") (columnOf c) (holeOf n)
  | .within c n ns => .form (.inList false) (columnOf c :: holeOf n :: ns.map holeOf)
  | .between c low high => .between false (columnOf c) (holeOf low) (holeOf high)

def conjunction (first : Test) (others : List Test) : Expr :=
  others.foldl (fun e t => .binary .and e t.expr) first.expr

def conjunctionPieces (first : Test) (others : List Test) : List Piece :=
  first.pieces ++ others.flatMap fun t => .word "AND" :: t.pieces

def tokensOf (ps : List Piece) : List Token := ps.flatMap Piece.tokens

theorem tokensOf_append (ps qs : List Piece) : tokensOf (ps ++ qs) = tokensOf ps ++ tokensOf qs :=
  List.flatMap_append

namespace Grammar

variable {d : Nat} {ts rest : List Token}

theorem strength_symbol (s : String) (ts : List Token) :
    strength (.symbol s :: ts) = (symbolStrengths.lookup s).getD 0 := rfl

theorem strength_word {w : Word} (hat : w.keyword ≠ "AT") (hnot : w.keyword ≠ "NOT")
    (ts : List Token) : strength (.word w :: ts) = (wordStrengths.lookup w.keyword).getD 0 := by
  unfold strength
  simp only [if_neg hat, if_neg hnot]

theorem strength_of_keyword {w : Word} {k : String} (hk : w.keyword = k) (hat : k ≠ "AT")
    (hnot : k ≠ "NOT") (ts : List Token) :
    strength (.word w :: ts) = (wordStrengths.lookup k).getD 0 := by
  subst hk
  exact strength_word hat hnot ts

theorem strength_of_connective {s : String} (hs : s ∈ connectives) (ts : List Token) :
    strength (.word (.bare s) :: ts) = (wordStrengths.lookup s).getD 0 := by
  have hne : ∀ k ∈ connectives, k ≠ "AT" ∧ k ≠ "NOT" := by decide
  exact strength_of_keyword (keyword_of_connective hs) (hne s hs).1 (hne s hs).2 ts

theorem strength_le_of_ended (h : Ended ts) : strength ts ≤ comparisonStrength := by
  cases ts with
  | nil => exact Nat.zero_le _
  | cons t ts =>
    have he := h t rfl
    cases t with
    | symbol s =>
      have hs : s ∈ endSymbols := List.contains_iff_mem.mp he
      rw [strength_symbol]
      clear he h
      revert s
      decide
    | word w =>
      have hw : w.keyword ∈ endWords := List.contains_iff_mem.mp he
      rw [strength_word (h.keyword_ne "AT" (by decide) _ rfl)
        (h.keyword_ne "NOT" (by decide) _ rfl)]
      generalize w.keyword = k at hw
      revert k
      decide
    | _ => exact Nat.zero_le _

/-- An operand before tokens at which no operator that binds more than `s` begins is all that is
read. -/
theorem readOperation_run_of_operand {g : Grammar} {e : Expr} {s : Nat}
    (he : g.readOperand d ts = some (e, rest)) (hs : strength rest ≤ s) :
    g.readOperation s d ts = some (e, rest) := by
  rw [readOperation, bind_run, he]
  refine iterate_run (.last ?_)
  rw [bind_run, rest_run, Option.bind_some, if_neg (Nat.not_lt.mpr hs)]
  rfl

theorem rightSide_run {g : Grammar} {left right : Expr} {op : BinaryOp} {s : Nat}
    (hq : ∀ t ∈ ts.head?, t.keyword ∉ ["ANY", "ALL"])
    (hr : g.operation s d ts = some (right, rest)) :
    g.rightSide left op s d ts = some (.binary op left right, rest) := by
  simp only [rightSide, bind_run, oneOf?_run_of_not_mem hq, Option.bind_some, hr, pure_run]

theorem operator_run_of_binary {g : Grammar} {left right : Expr} {op : BinaryOp} {s : Nat}
    {t : Token} (hb : binary? t = some (pure op))
    (hq : ∀ t ∈ ts.head?, t.keyword ∉ ["ANY", "ALL"])
    (hr : g.operation s d ts = some (right, rest)) :
    g.operator left s d (t :: ts) = some (.binary op left right, rest) := by
  simp only [operator, bind_run, peek?_run, Option.bind_some, List.head?_cons, hb, next_run,
    pure_run, rightSide_run hq hr]

theorem operator_run_of_word (g : Grammar) (left : Expr) (s : Nat) {w : Word}
    (hw : w.keyword ∉ ["AND", "OR", "XOR", "OPERATOR", "IS", "AT"]) :
    g.operator left s d (.word w :: ts) = g.testForm left d (.word w :: ts) := by
  simp only [List.mem_cons, List.not_mem_nil, or_false, not_or] at hw
  obtain ⟨hand, hor, hxor, hop, his, hat⟩ := hw
  simp only [operator, bind_run, peek?_run, Option.bind_some, List.head?_cons, binary?, if_neg hand,
    if_neg hor, if_neg hxor, if_neg hop, if_neg his, if_neg hat]

theorem operation_run_of_hole (g : Grammar) (n : Nat) (h : Ended rest) :
    g.above.operation comparisonStrength d (.placeholder (holeName n) :: rest) =
      some (holeOf n, rest) :=
  readOperation_run_of_operand (readOperand_run_of_placeholder g (holeName n) h)
    (strength_le_of_ended h)

theorem expr_run_of_hole (g : Grammar) (n : Nat) (h : Ended rest) (hs : strength rest = 0) :
    g.above.expr (d + 1) (.placeholder (holeName n) :: rest) = some (holeOf n, rest) := by
  rw [expr, deeper_run]
  exact readOperation_run_of_operand (readOperand_run_of_placeholder g (holeName n) h)
    (Nat.le_of_eq hs)

theorem hole_keyword_not_mem (n : Nat) : ∀ t ∈ (Token.placeholder (holeName n) :: ts).head?,
    t.keyword ∉ ["ANY", "ALL"] := by
  rintro t ⟨⟩
  simp [Token.keyword]

theorem matchWord?_run (h : ∀ t ∈ ts.head?, t.keyword ∉ ["REGEXP", "RLIKE"]) :
    matchWord? d ts = some (none, ts) := by
  have hregexp : ∀ t ∈ ts.head?, t.keyword ≠ "REGEXP" := fun t ht he => h t ht (by simp [he])
  have hrlike : ∀ t ∈ ts.head?, t.keyword ≠ "RLIKE" := fun t ht he => h t ht (by simp [he])
  simp only [matchWord?, bind_run, keyword?_run_of_ne hregexp, keyword?_run_of_ne hrlike,
    Option.bind_some, Bool.false_eq_true, if_false, pure_run]

theorem keyword?_run_word {w : Word} {k word : String} (hk : w.keyword = k) (hne : k ≠ word)
    (d : Nat) (ts : List Token) : keyword? word d (.word w :: ts) = some (false, .word w :: ts) :=
  keyword?_run_of_ne (by
    rintro t ⟨⟩ he
    exact hne (hk.symm.trans he)) d

theorem testForm_run_of_in (g : Grammar) (left : Expr) {w : Word} (hk : w.keyword = "IN") :
    g.testForm left d (.word w :: ts) = g.membership left false d ts := by
  have hm : matchWord? d (.word w :: ts) = some (none, .word w :: ts) := matchWord?_run (by
    rintro t ⟨⟩
    simp [Token.keyword, hk])
  simp only [testForm, bind_run, keyword?_run_word hk (by decide : "IN" ≠ "NOT"), Option.bind_some,
    hm, keyword?_run_of_eq (t := .word w) hk, if_true]

theorem testForm_run_of_between {g : Grammar} {left low high : Expr} {w a : Word}
    {mid : List Token} (hk : w.keyword = "BETWEEN") (ha : a.keyword = "AND")
    (hlow : g.operation comparisonStrength d ts = some (low, .word a :: mid))
    (hhigh : g.operation comparisonStrength d mid = some (high, rest)) :
    g.testForm left d (.word w :: ts) = some (.between false left low high, rest) := by
  have hm : matchWord? d (.word w :: ts) = some (none, .word w :: ts) := matchWord?_run (by
    rintro t ⟨⟩
    simp [Token.keyword, hk])
  simp only [testForm, bind_run, keyword?_run_word hk (by decide : "BETWEEN" ≠ "NOT"),
    Option.bind_some, hm, keyword?_run_word hk (by decide : "BETWEEN" ≠ "IN"), Bool.false_eq_true,
    if_false, keyword?_run_of_eq (t := .word w) hk, if_true, hlow,
    keyword_run (t := .word a) ha, hhigh, pure_run]

theorem exprs_run_of_holes (g : Grammar) (n : Nat) (ns : List Nat) :
    g.above.exprs (d + 1) (listed (fun m => [.placeholder (holeName m)]) (n :: ns) ++
      .symbol ")" :: rest) = some ((n :: ns).map holeOf, .symbol ")" :: rest) := by
  refine commaList_run (fun ts => Ended ts ∧ strength ts = 0) (fun m _ after h => ?_)
    (fun after => ⟨.symbol (by decide) after, rfl⟩) ⟨.symbol (by decide) rest, rfl⟩
    (symbol_ne_symbol (by decide))
  exact expr_run_of_hole g m h.1 h.2

theorem membership_run_of_holes (g : Grammar) (left : Expr) (n : Nat) (ns : List Nat) :
    g.above.membership left false (d + 1) (.symbol "(" ::
      listed (fun m => [.placeholder (holeName m)]) (n :: ns) ++ .symbol ")" :: rest) =
        some (.form (.inList false) (left :: (n :: ns).map holeOf), rest) := by
  have hu : keyword? "UNNEST" (d + 1) (.symbol "(" ::
      listed (fun m => [.placeholder (holeName m)]) (n :: ns) ++ .symbol ")" :: rest) =
        some (false, .symbol "(" ::
          listed (fun m => [.placeholder (holeName m)]) (n :: ns) ++ .symbol ")" :: rest) :=
    keyword?_run_of_ne (by rintro t ⟨⟩; decide) _
  have hq : startsQuery (listed (fun m => [Token.placeholder (holeName m)]) (n :: ns) ++
      .symbol ")" :: rest) = false := rfl
  rw [membership, bind_run, hu, Option.bind_some, if_neg Bool.false_ne_true, List.cons_append]
  refine parenthesized_run ?_
  simp only [bind_run, rest_run, Option.bind_some, hq, Bool.false_eq_true, if_false,
    exprs_run_of_holes g n ns, pure_run]

/-- What stands behind the column of a test is an operator with its right side. -/
theorem operator_run_of_test (g : Grammar) (t : Test) (h : Ended rest) :
    strength (tokensOf t.behind ++ rest) = comparisonStrength ∧
      g.above.operator (columnOf t.column) comparisonStrength (d + 1) (tokensOf t.behind ++ rest) =
        some (t.expr, rest) := by
  cases t with
  | equals c n =>
    exact ⟨rfl, operator_run_of_binary rfl (hole_keyword_not_mem n) (operation_run_of_hole g n h)⟩
  | differs c n =>
    exact ⟨rfl, operator_run_of_binary rfl (hole_keyword_not_mem n) (operation_run_of_hole g n h)⟩
  | within c n ns =>
    have hk : (Word.bare "IN").keyword = "IN" := keyword_of_connective (by simp [connectives])
    have htokens : tokensOf (Test.within c n ns).behind ++ rest = .word (.bare "IN") ::
        .symbol "(" :: listed (fun m => [.placeholder (holeName m)]) (n :: ns) ++
          .symbol ")" :: rest := by
      simp only [tokensOf, Test.behind, List.cons_append, List.flatMap_cons, List.flatMap_append,
        List.flatMap_nil, List.append_nil, List.flatMap_assoc, Piece.tokens, List.nil_append,
        listed, List.append_assoc]
    rw [htokens]
    refine ⟨strength_of_connective (by simp [connectives]) _, ?_⟩
    rw [List.cons_append, operator_run_of_word _ _ _ (by rw [hk]; decide),
      testForm_run_of_in _ _ hk]
    exact membership_run_of_holes g _ n ns
  | between c low high =>
    have hk : (Word.bare "BETWEEN").keyword = "BETWEEN" :=
      keyword_of_connective (by simp [connectives])
    have ha : (Word.bare "AND").keyword = "AND" := keyword_of_connective (by simp [connectives])
    refine ⟨strength_of_connective (by simp [connectives]) _, ?_⟩
    change g.above.operator _ _ _ (.word (.bare "BETWEEN") :: .placeholder (holeName low) ::
      .word (.bare "AND") :: .placeholder (holeName high) :: rest) = _
    rw [operator_run_of_word _ _ _ (by rw [hk]; decide)]
    exact testForm_run_of_between hk ha (operation_run_of_hole g low (.word (by decide) _))
      (operation_run_of_hole g high h)

/-- The steps from an operand to an expression of operators that bind more than `s`. -/
abbrev operationStep (g : Grammar) (s : Nat) (e : Expr) : Parser (Option Expr) := do
  let t := strength (← Parser.rest)
  if s < t then some <$> g.operator e t else pure none

theorem operationStep_run_none (g : Grammar) {s : Nat} (e : Expr) (h : strength ts ≤ s) :
    g.operationStep s e d ts = some (none, ts) := by
  rw [operationStep, bind_run, rest_run, Option.bind_some, if_neg (Nat.not_lt.mpr h)]
  rfl

theorem operationStep_run_some {g : Grammar} {s : Nat} {e e' : Expr} (h : s < strength ts)
    (ho : g.operator e (strength ts) d ts = some (e', rest)) :
    g.operationStep s e d ts = some (some e', rest) := by
  rw [operationStep, bind_run, rest_run, Option.bind_some, if_pos h, map_run, ho]
  rfl

theorem readOperation_run_of_steps {g : Grammar} {s : Nat} {e e' : Expr} {mid : List Token}
    (he : g.readOperand d ts = some (e, mid)) (hs : Steps (g.operationStep s) d e mid e' rest) :
    g.readOperation s d ts = some (e', rest) := by
  rw [readOperation, bind_run, he]
  exact iterate_run hs

theorem ended_of_test (t : Test) : Ended (tokensOf t.behind ++ rest) := by
  cases t with
  | equals _ _ | differs _ _ => exact .symbol (by decide) _
  | within _ _ _ | between _ _ _ => exact .word (by decide) _

theorem length_behind_pos (t : Test) : 0 < (tokensOf t.behind).length := by
  cases t with
  | _ =>
    simp only [tokensOf, Test.behind, List.cons_append, List.flatMap_cons, List.length_append,
      Piece.tokens, List.length_cons]
    omega

theorem readOperand_run_of_test (g : Grammar) (t : Test) (hc : IsOrdinary t.column) :
    g.readOperand d (tokensOf t.pieces ++ rest) =
      some (columnOf t.column, tokensOf t.behind ++ rest) :=
  readOperand_run_of_word g (w := .bare t.column) hc.free (ended_of_test t)

theorem operation_run_of_test (g : Grammar) (t : Test) (hc : IsOrdinary t.column)
    (h : Ended rest) {s : Nat} (hs : s < comparisonStrength) (hr : strength rest ≤ s) :
    g.above.readOperation s (d + 1) (tokensOf t.pieces ++ rest) = some (t.expr, rest) := by
  obtain ⟨hst, ho⟩ := operator_run_of_test (d := d) g t h
  refine readOperation_run_of_steps (readOperand_run_of_test g.above t hc) ?_
  refine .more (b := t.expr) (m := rest) (operationStep_run_some (by rwa [hst]) (hst ▸ ho)) ?_
    (.last (operationStep_run_none g.above t.expr hr))
  rw [List.length_append]
  exact Nat.lt_add_of_pos_left (length_behind_pos t)

theorem steps_of_tests (g : Grammar) {others : List Test}
    (hc : ∀ t ∈ others, IsOrdinary t.column) (h : Ended rest) (hr : strength rest = 0) (e : Expr) :
    Steps (g.above.above.operationStep 0) (d + 1) e
      (tokensOf (others.flatMap fun t => .word "AND" :: t.pieces) ++ rest)
      (others.foldl (fun e t => .binary .and e t.expr) e) rest := by
  have ha : (Word.bare "AND").keyword = "AND" := keyword_of_connective (by simp [connectives])
  have hstrength (ts : List Token) : strength (.word (.bare "AND") :: ts) = 10 :=
    strength_of_connective (by simp [connectives]) ts
  induction others generalizing e with
  | nil => exact .last (operationStep_run_none _ e (Nat.le_of_eq hr))
  | cons t others ih =>
    have hended : Ended (tokensOf (others.flatMap fun t => .word "AND" :: t.pieces) ++ rest) ∧
        strength (tokensOf (others.flatMap fun t => .word "AND" :: t.pieces) ++ rest) ≤ 10 := by
      cases others with
      | nil => exact ⟨h, Nat.le_trans (Nat.le_of_eq hr) (by decide)⟩
      | cons u others => exact ⟨.word (by decide) _, Nat.le_of_eq (hstrength _)⟩
    have htokens : tokensOf ((t :: others).flatMap fun t => .word "AND" :: t.pieces) ++ rest =
        .word (.bare "AND") :: (tokensOf t.pieces ++
          (tokensOf (others.flatMap fun t => .word "AND" :: t.pieces) ++ rest)) := by
      simp only [tokensOf, List.flatMap_cons, List.flatMap_append, List.append_assoc, Piece.tokens,
        List.cons_append, List.nil_append]
    have hq : ∀ u ∈ (tokensOf t.pieces ++
        (tokensOf (others.flatMap fun t => .word "AND" :: t.pieces) ++ rest)).head?,
        u.keyword ∉ ["ANY", "ALL"] := by
      rintro u ⟨⟩
      exact not_mem_of_free (hc t List.mem_cons_self).free (by simp [reserved])
    have hop : g.above.above.operator e 10 (d + 1)
        (.word (.bare "AND") :: (tokensOf t.pieces ++
          (tokensOf (others.flatMap fun t => .word "AND" :: t.pieces) ++ rest))) =
        some (.binary .and e t.expr,
          tokensOf (others.flatMap fun t => .word "AND" :: t.pieces) ++ rest) :=
      operator_run_of_binary (by rw [binary?, if_pos ha]) hq
        (operation_run_of_test g t (hc t List.mem_cons_self) hended.1 (by decide) hended.2)
    rw [htokens]
    refine .more (b := .binary .and e t.expr)
      (m := tokensOf (others.flatMap fun t => .word "AND" :: t.pieces) ++ rest)
      (operationStep_run_some (by rw [hstrength]; decide) (by rw [hstrength]; exact hop)) ?_
      (ih (fun u hu => hc u (List.mem_cons_of_mem t hu)) (.binary .and e t.expr))
    simp only [List.length_cons, List.length_append]
    omega

/-- A condition is read as the conjunction of its tests. -/
theorem expr_run_of_conjunction (g : Grammar) {first : Test} {others : List Test}
    (hc : ∀ t ∈ first :: others, IsOrdinary t.column) (h : Ended rest) (hr : strength rest = 0) :
    g.above.above.above.expr (d + 2) (tokensOf (conjunctionPieces first others) ++ rest) =
      some (conjunction first others, rest) := by
  have hstart : Ended (tokensOf (others.flatMap fun t => .word "AND" :: t.pieces) ++ rest) := by
    cases others with
    | nil => exact h
    | cons t others => exact .word (by decide) _
  obtain ⟨hst, ho⟩ := operator_run_of_test (d := d) g.above first hstart
  have hsteps := steps_of_tests (d := d) g (fun t ht => hc t (List.mem_cons_of_mem first ht)) h hr
    first.expr
  rw [expr, deeper_run, conjunctionPieces, tokensOf_append, List.append_assoc]
  refine readOperation_run_of_steps (readOperand_run_of_test g.above.above first
    (hc first List.mem_cons_self)) (.more (operationStep_run_some ?_ (hst ▸ ho)) ?_ hsteps)
  · rw [hst]
    decide
  · have := length_behind_pos first
    simp only [List.length_append]
    omega

end Grammar

end BankQuery.Sql
