import BankQuery.Proofs.Sql.Conditions

/-!
# Reports

A report selects columns and functions of columns of one table under labels, on a condition, perhaps
grouped by a column, sorted, and perhaps limited. Its text is its pieces, and its tree is what they
mean. Each of its headings and sortings is read as it is meant.
-/

namespace BankQuery.Sql

open BankQuery.Sql.Parser

inductive Field where
  | plain (column : String)
  | applied (function column : String)

namespace Field

def names : Field → List String
  | .plain c => [c]
  | .applied f c => [f, c]

def head : Field → String
  | .plain c => c
  | .applied f _ => f

def pieces : Field → List Piece
  | .plain c => [.word c]
  | .applied f c => [.word f, .openWord c, .close]

def expr : Field → Expr
  | .plain c => columnOf c
  | .applied f c => Grammar.callOf ⟨f, none⟩ ⟨c, none⟩

end Field

structure Heading where
  field : Field
  label : String

def Heading.pieces (h : Heading) : List Piece := h.field.pieces ++ [.word "AS", .word h.label]

structure Sorting where
  field : Field
  descending : Option Bool := none
  nullsLast : Bool := false

namespace Sorting

def direction : Option Bool → List Piece
  | none => []
  | some true => [.word "DESC"]
  | some false => [.word "ASC"]

def nulls : Bool → List Piece
  | true => [.word "NULLS", .word "LAST"]
  | false => []

def pieces (s : Sorting) : List Piece :=
  s.field.pieces ++ direction s.descending ++ nulls s.nullsLast

def order (s : Sorting) : SortOrder := ⟨s.descending, if s.nullsLast then some false else none⟩

end Sorting

def listedPieces {α : Type} (pieces : α → List Piece) (x : α) (xs : List α) : List Piece :=
  pieces x ++ xs.flatMap fun y => .comma :: pieces y

structure Report where
  heading : Heading
  headings : List Heading
  table : String
  test : Test
  tests : List Test
  group : Option String := none
  sorting : Sorting
  sortings : List Sorting
  /-- The number of the placeholder that limits the rows. -/
  limit : Option Nat := none

namespace Report

structure IsPlain (r : Report) : Prop where
  fields : ∀ h ∈ r.heading :: r.headings, ∀ s ∈ h.field.names, IsOrdinary s
  labels : ∀ h ∈ r.heading :: r.headings, IsOrdinary h.label
  table : IsOrdinary r.table
  tests : ∀ t ∈ r.test :: r.tests, IsOrdinary t.column
  group : ∀ c ∈ r.group, IsOrdinary c
  sortings : ∀ s ∈ r.sorting :: r.sortings, ∀ c ∈ s.field.names, IsOrdinary c

def grouping : Option String → List Piece
  | none => []
  | some c => [.word "GROUP", .word "BY", .word c]

def limiting : Option Nat → List Piece
  | none => []
  | some n => [.word "LIMIT", .hole n]

def holes (r : Report) : List Nat := (r.test :: r.tests).flatMap Test.holes ++ r.limit.toList

/-- What stands behind the condition and the column to group by. -/
def ending (r : Report) : List Piece :=
  [.word "ORDER", .word "BY"] ++
    (listedPieces Sorting.pieces r.sorting r.sortings ++ limiting r.limit)

def condition (r : Report) : List Piece :=
  conjunctionPieces r.test r.tests ++ (grouping r.group ++ r.ending)

def pieces (r : Report) : List Piece :=
  listedPieces Heading.pieces r.heading r.headings ++
    ([.word "FROM", .word r.table, .word "WHERE"] ++ r.condition)

def text (r : Report) : String := "SELECT" ++ spelled r.pieces

/-- The text of a report, clause by clause. -/
theorem text_eq_spelled (r : Report) :
    r.text = "SELECT" ++ spelled (r.heading.pieces ++
      ((r.headings.flatMap fun h => .comma :: h.pieces) ++
        (.word "FROM" :: .word r.table :: .word "WHERE" :: (r.test.pieces ++
          ((r.tests.flatMap fun u => .word "AND" :: u.pieces) ++ (grouping r.group ++
            (.word "ORDER" :: .word "BY" :: (r.sorting.pieces ++
              ((r.sortings.flatMap fun s => .comma :: s.pieces) ++ limiting r.limit))))))))) := by
  simp only [text, pieces, condition, ending, listedPieces, conjunctionPieces, List.append_assoc,
    List.cons_append, List.nil_append]

def select (r : Report) : Select where
  quantifier := .all
  distinctOn := []
  top := none
  topStyle := {}
  items := (r.heading :: r.headings).map fun h => h.field.expr
  aliases := (r.heading :: r.headings).map fun h => some ⟨h.label, none⟩
  into := none
  sources := [⟨.table [⟨r.table, none⟩] none [] none [], []⟩]
  views := []
  viewStyles := []
  condition := some (conjunction r.test r.tests)
  groupsAll := false
  groupBy := r.group.toList.map columnOf
  clusterBy := []
  distributeBy := []
  sortBy := []
  having := none
  windows := []
  windowOperands := []
  qualify := none

def query (r : Report) : Query where
  recursive := false
  ctes := []
  body := .select r.select
  orderBy := (r.sorting :: r.sortings).map fun s => s.field.expr
  orders := (r.sorting :: r.sortings).map Sorting.order
  limit := r.limit.map holeOf
  offset := none
  offsetRows := ""
  fetch := none
  fetchStyle := none
  locks := []

end Report

/-- Words that begin what may stand behind a condition. -/
def clauseWords : List String := ["GROUP", "ORDER", "LIMIT"]

def Token.closesPart : Token → Bool
  | .symbol s => s == ","
  | .word w => clauseWords.contains w.keyword
  | _ => false

/-- A part of a clause that stands before these tokens ends there. -/
def Closed (ts : List Token) : Prop := ∀ t ∈ ts.head?, t.closesPart = true

namespace Closed

variable {ts : List Token}

theorem ended (h : Closed ts) : Ended ts := by
  intro t ht
  have hc := h t ht
  cases t with
  | symbol s =>
    rw [eq_of_beq (show (s == ",") = true from hc)]
    decide
  | word w =>
    have hw : w.keyword ∈ clauseWords := List.contains_iff_mem.mp hc
    have hsub : ∀ k ∈ clauseWords, endWords.contains k = true := by decide
    exact hsub _ hw
  | _ => cases hc

theorem strength_eq (h : Closed ts) : Grammar.strength ts = 0 := by
  cases ts with
  | nil => rfl
  | cons t ts =>
    have hc := h t rfl
    cases t with
    | symbol s =>
      rw [eq_of_beq (show (s == ",") = true from hc)]
      rfl
    | word w =>
      have hw : w.keyword ∈ clauseWords := List.contains_iff_mem.mp hc
      rw [Grammar.strength_word (h.ended.keyword_ne "AT" (by decide) _ rfl)
        (h.ended.keyword_ne "NOT" (by decide) _ rfl)]
      generalize w.keyword = k at hw
      revert k
      decide
    | _ => rfl

theorem keyword_not_mem (h : Closed ts) (words : List String)
    (hw : ∀ word ∈ words, word ∉ "" :: clauseWords) : ∀ t ∈ ts.head?, t.keyword ∉ words := by
  intro t ht hm
  have hn := hw _ hm
  have he := h t ht
  cases t with
  | word w => exact hn (List.mem_cons_of_mem _ (List.contains_iff_mem.mp he))
  | _ => exact hn List.mem_cons_self

theorem keyword_ne (h : Closed ts) (word : String) (hw : word ∉ "" :: clauseWords) :
    ∀ t ∈ ts.head?, t.keyword ≠ word := fun t ht he =>
  h.keyword_not_mem [word] (by simpa using hw) t ht (by simp [he])

theorem comma (ts : List Token) : Closed (.symbol "," :: ts) := by
  rintro t ⟨⟩
  rfl

theorem word {s : String} (hs : s ∈ clauseWords) (ts : List Token) :
    Closed (.word (.bare s) :: ts) := by
  have hsub : ∀ s ∈ clauseWords, s ∈ connectives := by decide
  rintro t ⟨⟩
  change clauseWords.contains (Word.bare s).keyword = true
  rw [keyword_of_connective (hsub s hs)]
  exact List.contains_iff_mem.mpr hs

end Closed

theorem tokensOf_listedPieces {α : Type} (pieces : α → List Piece) (x : α) (xs : List α) :
    tokensOf (listedPieces pieces x xs) = listed (fun y => tokensOf (pieces y)) (x :: xs) := by
  rw [listedPieces, tokensOf_append, listed]
  simp only [tokensOf, List.flatMap_assoc, List.flatMap_cons, Piece.tokens, List.singleton_append]

namespace Grammar

variable {d : Nat} {ts rest : List Token}

theorem expr_run_of_column (g : Grammar) {c : String} (hc : IsOrdinary c) (h : Ended rest)
    (hs : strength rest = 0) :
    g.above.expr (d + 1) (.word (.bare c) :: rest) = some (columnOf c, rest) := by
  rw [expr, deeper_run]
  exact readOperation_run_of_operand (readOperand_run_of_word g hc.free h) (Nat.le_of_eq hs)

theorem expr_run_of_field (g : Grammar) {f : Field} (hf : ∀ s ∈ f.names, IsOrdinary s)
    (h : Ended rest) (hs : strength rest = 0) :
    g.above.above.expr (d + 2) (tokensOf f.pieces ++ rest) = some (f.expr, rest) := by
  cases f with
  | plain c => exact expr_run_of_column g.above (hf c (by simp [Field.names])) h hs
  | applied f c =>
    have hc : IsOrdinary c := hf c (by simp [Field.names])
    rw [expr, deeper_run]
    exact readOperation_run_of_operand (readOperand_run_of_call (w := .bare f) (v := .bare c)
      (hf f (by simp [Field.names])).free hc.free h 
      (expr_run_of_column g hc (.symbol (by decide) _) rfl))
      (Nat.le_of_eq hs)

theorem starPath_of_field (f : Field) (h : Ended rest) :
    starPath (tokensOf f.pieces ++ rest) = none := by
  cases f with
  | plain c =>
    cases rest with
    | nil => rfl
    | cons t rest =>
      change starPath (.word (.bare c) :: t :: rest) = none
      unfold starPath
      split
      · rename_i he
        cases he
      · rename_i he
        cases he
        exact absurd rfl (h.symbol_ne (s := ".") (by decide) _ rfl)
      · rfl
  | applied f c => rfl

theorem alias?_run_of_as {as : Word} (has : as.keyword = "AS") (words : List String) (w : Word)
    (rest : List Token) : alias? words d (.word as :: .word w :: rest) = some (some w.name, rest) := by
  simp only [alias?, bind_run, keyword?_run_of_eq (t := .word as) has, Option.bind_some, take?,
    Bool.true_or, if_true, Option.isNone_some, Bool.and_false, Bool.false_eq_true, if_false,
    pure_run]

theorem item_run (g : Grammar) {h : Heading} (hn : ∀ s ∈ h.field.names, IsOrdinary s) :
    g.above.above.item (d + 2) (tokensOf h.pieces ++ rest) =
      some ((h.field.expr, some ⟨h.label, none⟩), rest) := by
  have has : (Word.bare "AS").keyword = "AS" := keyword_of_connective (by simp [connectives])
  have hend : Ended (.word (.bare "AS") :: .word (.bare h.label) :: rest) := .word (by decide) _
  have htokens : tokensOf h.pieces ++ rest =
      tokensOf h.field.pieces ++ .word (.bare "AS") :: .word (.bare h.label) :: rest := by
    rw [Heading.pieces, tokensOf_append, List.append_assoc]
    rfl
  have he := exprOrStar_run (starPath_of_field h.field hend) (expr_run_of_field (d := d) g hn hend
    (strength_of_connective (by simp [connectives]) _))
  have hf (e : Expr) : g.above.above.itemFilter e (d + 2)
      (.word (.bare "AS") :: .word (.bare h.label) :: rest) =
        some (e, .word (.bare "AS") :: .word (.bare h.label) :: rest) := rfl
  have ha := alias?_run_of_as (d := d + 2) has notColumnAliases (.bare h.label) rest
  rw [htokens, item, bind_run, he]
  cases h.field with
  | plain c | applied f c =>
    simp only [Option.bind_some, Field.expr, columnOf, callOf, bind_run, hf, ha, pure_run]
    rfl

theorem items_run (g : Grammar) {h : Heading} {hs : List Heading}
    (hn : ∀ i ∈ h :: hs, ∀ s ∈ i.field.names, IsOrdinary s)
    (hr : ∀ t ∈ rest.head?, t ≠ .symbol ",") :
    commaList g.above.above.item (d + 2) (tokensOf (listedPieces Heading.pieces h hs) ++ rest) =
      some ((h :: hs).map fun i => (i.field.expr, some ⟨i.label, none⟩), rest) := by
  rw [tokensOf_listedPieces]
  exact commaList_run (fun _ => True) (fun i hi _ _ => item_run g (hn i hi))
    (fun _ => trivial) trivial hr

/-- What stands behind the direction of a sorting ends an operand and is no direction. -/
theorem nulls_end (nullsLast : Bool) (h : Closed rest) :
    Ended (tokensOf (Sorting.nulls nullsLast) ++ rest) ∧
      strength (tokensOf (Sorting.nulls nullsLast) ++ rest) = 0 ∧
      ∀ t ∈ (tokensOf (Sorting.nulls nullsLast) ++ rest).head?, t.keyword ∉ ["ASC", "DESC"] := by
  cases nullsLast with
  | false => exact ⟨h.ended, h.strength_eq, h.keyword_not_mem _ (by decide)⟩
  | true =>
    refine ⟨.word (by decide) _, strength_of_connective (by simp [connectives]) _, ?_⟩
    rintro t ⟨⟩
    decide

theorem direction_end (descending : Option Bool) (h : Ended ts ∧ strength ts = 0) :
    Ended (tokensOf (Sorting.direction descending) ++ ts) ∧
      strength (tokensOf (Sorting.direction descending) ++ ts) = 0 := by
  rcases descending with _ | _ | _
  · exact h
  · exact ⟨.word (by decide) _, strength_of_connective (by simp [connectives]) _⟩
  · exact ⟨.word (by decide) _, strength_of_connective (by simp [connectives]) _⟩

theorem direction_run (descending : Option Bool)
    (h : ∀ t ∈ ts.head?, t.keyword ∉ ["ASC", "DESC"]) :
    oneOf? ["ASC", "DESC"] d (tokensOf (Sorting.direction descending) ++ ts) =
      some (descending.map fun b => if b then "DESC" else "ASC", ts) := by
  have hasc : (Word.bare "ASC").keyword = "ASC" := keyword_of_connective (by simp [connectives])
  have hdesc : (Word.bare "DESC").keyword = "DESC" := keyword_of_connective (by simp [connectives])
  rcases descending with _ | _ | _
  · exact oneOf?_run_of_not_mem h _
  · rw [Option.map_some, if_neg Bool.false_ne_true, ← hasc]
    exact oneOf?_run_of_mem (t := .word (.bare "ASC")) (by decide) _ _
  · rw [Option.map_some, if_pos rfl, ← hdesc]
    exact oneOf?_run_of_mem (t := .word (.bare "DESC")) (by decide) _ _

theorem nulls_run (nullsLast : Bool) (h : Closed rest) :
    phrase? ["NULLS", "FIRST"] d (tokensOf (Sorting.nulls nullsLast) ++ rest) =
        some (false, tokensOf (Sorting.nulls nullsLast) ++ rest) ∧
      phrase? ["NULLS", "LAST"] d (tokensOf (Sorting.nulls nullsLast) ++ rest) =
        some (nullsLast, rest) := by
  cases nullsLast with
  | false => exact ⟨phrase?_run_of_ne (h.keyword_ne _ (by decide)) _,
      phrase?_run_of_ne (h.keyword_ne _ (by decide)) _⟩
  | true =>
    exact ⟨phrase?_run_of_ne_second (by decide) _ _,
      phrase?_run_of_eq (t := .word (.bare "NULLS")) (u := .word (.bare "LAST"))
        (keyword_of_connective (by simp [connectives]))
        (keyword_of_connective (by simp [connectives])) _ _⟩

theorem sorted_run (g : Grammar) {s : Sorting} (hn : ∀ c ∈ s.field.names, IsOrdinary c)
    (h : Closed rest) :
    g.above.above.sorted (d + 2) (tokensOf s.pieces ++ rest) =
      some ((s.field.expr, s.order), rest) := by
  obtain ⟨hnulls, hstrength, hd⟩ := nulls_end s.nullsLast h
  obtain ⟨hended, hnone⟩ := direction_end s.descending ⟨hnulls, hstrength⟩
  obtain ⟨hfirst, hsecond⟩ := nulls_run (d := d + 2) s.nullsLast h
  rw [Sorting.pieces, tokensOf_append, tokensOf_append, List.append_assoc, List.append_assoc,
    sorted, bind_run, expr_run_of_field g hn hended hnone, Option.bind_some, bind_run,
    direction_run s.descending hd, Option.bind_some, Sorting.order]
  rcases s.descending with _ | _ | _ <;> cases hl : s.nullsLast
  all_goals
    simp only [hl] at hfirst hsecond
    simp only [Option.map_none, Option.map_some, bind_run, pure_run, Option.bind_some, hfirst,
      hsecond, Bool.false_eq_true, if_true, if_false]
  all_goals rfl

theorem orderBy_run (g : Grammar) {s : Sorting} {ss : List Sorting}
    (hn : ∀ i ∈ s :: ss, ∀ c ∈ i.field.names, IsOrdinary c) (h : Closed rest)
    (hr : ∀ t ∈ rest.head?, t ≠ .symbol ",") :
    g.above.above.orderBy (d + 2) (.word (.bare "ORDER") :: .word (.bare "BY") ::
      (tokensOf (listedPieces Sorting.pieces s ss) ++ rest)) =
      some ((s :: ss).map fun i => (i.field.expr, i.order), rest) := by
  have horder : (Word.bare "ORDER").keyword = "ORDER" :=
    keyword_of_connective (by simp [connectives])
  have hby : (Word.bare "BY").keyword = "BY" := keyword_of_connective (by simp [connectives])
  rw [orderBy, listAfter, bind_run, phrase?_run_of_eq (t := .word _) (u := .word _) horder hby,
    Option.bind_some, if_pos rfl, tokensOf_listedPieces]
  exact commaList_run Closed (fun i hi _ hc => sorted_run g (hn i hi) hc) Closed.comma h hr

end Grammar

end BankQuery.Sql
