import BankQuery.Proofs.Sql.Report

/-!
# Reading reports

The text of a report whose names are ordinary is read as its tree, and nothing is left behind it.
-/

namespace BankQuery.Sql

open BankQuery.Sql.Parser

namespace Grammar

variable {d : Nat} {ts rest : List Token}

theorem keyword_not_mem_of_ordinary {c : String} (hc : IsOrdinary c) (ts : List Token)
    {words : List String} (hw : ∀ word ∈ words, word ∈ reserved) :
    ∀ t ∈ (Token.word (.bare c) :: ts).head?, t.keyword ∉ words := by
  rintro t ⟨⟩
  exact not_mem_of_free hc.free hw

theorem keyword_ne_of_ordinary {c k : String} (hc : IsOrdinary c) (hk : k ∈ reserved)
    (ts : List Token) :
    ∀ t ∈ (Token.word (.bare c) :: ts).head?, t.keyword ≠ k := by
  rintro t ⟨⟩
  exact ne_of_free hc.free hk

theorem groupBy_run (g : Grammar) {group : Option String} (hn : ∀ c ∈ group, IsOrdinary c)
    (h : Closed rest) (hg : ∀ t ∈ rest.head?, t.keyword ≠ "GROUP")
    (hr : ∀ t ∈ rest.head?, t ≠ .symbol ",") :
    g.above.groupBy (d + 1) (tokensOf (Report.grouping group) ++ rest) =
      some ((false, group.toList.map columnOf), rest) := by
  cases group with
  | none =>
    change g.above.groupBy (d + 1) rest = _
    rw [groupBy, bind_run, phrase?_run_of_ne hg]
    rfl
  | some c =>
    have hc : IsOrdinary c := hn c rfl
    have hne {k : String} (hk : k ∈ reserved) := keyword_ne_of_ordinary hc hk rest
    have hgroup : (Word.bare "GROUP").keyword = "GROUP" :=
      keyword_of_connective (by simp [connectives])
    have hby : (Word.bare "BY").keyword = "BY" := keyword_of_connective (by simp [connectives])
    have hm : g.above.groupExpr (d + 1) (.word (.bare c) :: rest) = some (columnOf c, rest) := by
      simp only [groupExpr, bind_run,
        phrase?_run_of_ne (hne (k := "GROUPING") (by simp [reserved])),
        keyword?_run_of_ne (hne (k := "CUBE") (by simp [reserved])),
        keyword?_run_of_ne (hne (k := "ROLLUP") (by simp [reserved])), Option.bind_some,
        Bool.false_eq_true, if_false, expr_run_of_column g hc h.ended h.strength_eq]
    change g.above.groupBy (d + 1) (.word (.bare "GROUP") :: .word (.bare "BY") ::
      .word (.bare c) :: rest) = _
    rw [groupBy, bind_run, phrase?_run_of_eq (t := .word _) (u := .word _) hgroup hby,
      Option.bind_some, if_pos rfl, bind_run,
      keyword?_run_of_ne (hne (k := "ALL") (by simp [reserved])), Option.bind_some,
      if_neg Bool.false_ne_true, bind_run, commaList_run_single hm hr]
    rfl

section Source

variable {w : Word} (hw : w.keyword = "WHERE")

include hw in
theorem tableAlias?_run_of_where :
    tableAlias? d (.word w :: rest) = some (none, .word w :: rest) := by
  have ha : alias? notTableAliases d (.word w :: rest) = some (none, .word w :: rest) := by
    simp only [alias?, bind_run, keyword?_run_word hw (by decide : "WHERE" ≠ "AS"),
      Option.bind_some, take?, hw]
    rfl
  rw [tableAlias?, bind_run, ha]
  rfl

include hw in
theorem join?_run_of_where (g : Grammar) :
    g.join? d (.word w :: rest) = some (none, .word w :: rest) := by
  have hk : oneOf? ["INNER", "JOIN", "LEFT", "RIGHT", "FULL"] d (.word w :: rest) =
      some (none, .word w :: rest) := oneOf?_run_of_not_mem (by
    rintro t ⟨⟩
    simp [Token.keyword, hw]) d
  simp only [join?, bind_run, keyword?_run_word hw (by decide : "WHERE" ≠ "CROSS"),
    keyword?_run_word hw (by decide : "WHERE" ≠ "OUTER"),
    keyword?_run_word hw (by decide : "WHERE" ≠ "NATURAL"), Option.bind_some, Bool.false_eq_true,
    if_false, ruledKind?, hk, pure_run, Bool.not_false, ensure_run]

include hw in
/-- One table before the condition. -/
theorem readSource_run_of_table (g : Grammar) {name : String} (hn : IsOrdinary name) {next : Word} :
    g.readSource d (.word (.bare name) :: .word w :: .word next :: rest) =
      some (⟨.table [⟨name, none⟩] none [] none [], []⟩, .word w :: .word next :: rest) := by
  have hpath : path d (.word (.bare name) :: .word w :: .word next :: rest) =
      some ([⟨name, none⟩], .word w :: .word next :: rest) :=
    path_run _ (word_ne_symbol _)
  have hopen (w : Word) (ts : List Token) :
      symbol? "(" d (.word w :: ts) = some (false, .word w :: ts) :=
    symbol?_run_of_ne (word_ne_symbol _) d
  have hhints : g.hints? d (.word w :: .word next :: rest) =
      some ([], .word w :: .word next :: rest) := rfl
  have htable : g.table d (.word (.bare name) :: .word w :: .word next :: rest) =
      some (.table [⟨name, none⟩] none [] none [], .word w :: .word next :: rest) := by
    simp only [table, bind_run, hpath, Option.bind_some, hopen, Bool.false_eq_true, if_false,
      pure_run, tableAlias?_run_of_where hw, hhints]
    rfl
  have hturn : oneOf? ["PIVOT", "UNPIVOT"] d (.word w :: .word next :: rest) =
      some (none, .word w :: .word next :: rest) := oneOf?_run_of_not_mem (by
    rintro t ⟨⟩
    simp [Token.keyword, hw]) d
  have hnamed : g.named d (.word (.bare name) :: .word w :: .word next :: rest) =
      some (.table [⟨name, none⟩] none [] none [], .word w :: .word next :: rest) := by
    rw [named, bind_run, htable, Option.bind_some]
    refine iterate_run (.last ?_)
    rw [bind_run, hturn]
    rfl
  have hrelation : g.relation d (.word (.bare name) :: .word w :: .word next :: rest) =
      some (.table [⟨name, none⟩] none [] none [], .word w :: .word next :: rest) := by
    have hne {k : String} (hk : k ∈ reserved) :=
      keyword_ne_of_ordinary hn hk (.word w :: .word next :: rest)
    simp only [relation, bind_run, keyword?_run_of_ne (hne (k := "LATERAL") (by simp [reserved])),
      keyword?_run_of_ne (hne (k := "TABLE") (by simp [reserved])),
      keyword?_run_of_ne (hne (k := "UNNEST") (by simp [reserved])), Option.bind_some,
      Bool.false_eq_true, if_false, hopen, hnamed]
  rw [readSource, bind_run, hrelation, Option.bind_some, bind_run, iterate_run (.last ?_)]
  · rfl
  · rw [bind_run, join?_run_of_where hw]
    rfl

end Source

theorem head_mem (f : Field) : f.head ∈ f.names := by
  cases f with
  | _ => exact List.mem_cons_self

theorem starts_pieces (r : Report) :
    ∃ ts, tokensOf r.pieces = .word (.bare r.heading.field.head) :: ts := by
  rw [Report.pieces, listedPieces, Heading.pieces]
  cases r.heading.field with
  | _ => exact ⟨_, rfl⟩

theorem tokensOf_pieces (r : Report) :
    tokensOf r.pieces = tokensOf (listedPieces Heading.pieces r.heading r.headings) ++
      .word (.bare "FROM") :: .word (.bare r.table) :: .word (.bare "WHERE") ::
        tokensOf r.condition := by
  rw [Report.pieces, tokensOf_append, tokensOf_append]
  rfl

theorem closed_ending (r : Report) :
    Closed (tokensOf (Report.grouping r.group) ++ tokensOf r.ending) ∧
      Closed (tokensOf r.ending) := by
  refine ⟨?_, .word (by decide) _⟩
  cases r.group with
  | none => exact .word (by decide) _
  | some c => exact .word (by decide) _

theorem sources_run (g : Grammar) {name : String} (hn : IsOrdinary name) {w : Word}
    (hw : w.keyword = "WHERE") (next : Word) (rest : List Token) :
    listAfter ["FROM"] (commaList g.above.source) d (.word (.bare "FROM") :: .word (.bare name) ::
      .word w :: .word next :: rest) =
        some ([⟨.table [⟨name, none⟩] none [] none [], []⟩], .word w :: .word next :: rest) := by
  have hfrom : (Word.bare "FROM").keyword = "FROM" := keyword_of_connective (by simp [connectives])
  rw [listAfter, bind_run, phrase?_run_single (t := .word _) hfrom, Option.bind_some, if_pos rfl]
  exact commaList_run_single (readSource_run_of_table hw g hn) (word_ne_symbol ",")

theorem into?_run_of_from (ts : List Token) :
    into? d (.word (.bare "FROM") :: ts) = some (none, .word (.bare "FROM") :: ts) := by
  rw [into?, bind_run, keyword?_run_of_ne
    (keyword_ne_of_connective (by simp [connectives]) (by decide) _)]
  rfl

theorem views_run_of_where (g : Grammar) (ts : List Token) :
    g.views d (.word (.bare "WHERE") :: ts) = some ([], .word (.bare "WHERE") :: ts) := by
  rw [views, bind_run, iterate_run (.last ?_)]
  · rfl
  · rw [bind_run, view?, bind_run, phrase?_run_of_ne
      (keyword_ne_of_connective (by simp [connectives]) (by decide) _)]
    rfl

/-- A report begins with a name, so that neither a quantifier nor a number of rows is taken. -/
theorem headings_run (g : Grammar) {r : Report} (h : r.IsPlain) :
    g.above.above.above.quantifier (d + 2) (tokensOf r.pieces) =
        some ((.all, []), tokensOf r.pieces) ∧
      g.above.above.above.top? (d + 2) (tokensOf r.pieces) =
        some ((none, {}), tokensOf r.pieces) ∧
      commaList g.above.above.above.item (d + 2) (tokensOf r.pieces) =
        some ((r.heading :: r.headings).map fun i => (i.field.expr, some ⟨i.label, none⟩),
          .word (.bare "FROM") :: .word (.bare r.table) :: .word (.bare "WHERE") ::
            tokensOf r.condition) := by
  obtain ⟨ts, hts⟩ := starts_pieces r
  have hc : IsOrdinary r.heading.field.head :=
    h.fields r.heading List.mem_cons_self _ (head_mem _)
  refine ⟨quantifier_run _ ?_, ?_, ?_⟩
  · rw [hts]
    exact keyword_not_mem_of_ordinary hc ts (by simp [reserved])
  · rw [top?, bind_run, hts,
      keyword?_run_of_ne (keyword_ne_of_ordinary hc (by simp [reserved]) ts)]
    rfl
  · rw [tokensOf_pieces]
    exact items_run g.above h.fields (word_ne_symbol ",")

theorem condition_run (g : Grammar) {r : Report} (h : r.IsPlain) :
    afterKeyword? "WHERE" g.above.above.above.expr (d + 2)
      (.word (.bare "WHERE") :: tokensOf r.condition) =
        some (some (conjunction r.test r.tests),
          tokensOf (Report.grouping r.group) ++ tokensOf r.ending) := by
  obtain ⟨hgroup, -⟩ := closed_ending r
  rw [afterKeyword?, bind_run,
    keyword?_run_of_eq (t := .word _) (keyword_of_connective (by simp [connectives])),
    Option.bind_some, if_pos rfl, map_run, Report.condition, tokensOf_append, tokensOf_append,
    expr_run_of_conjunction g h.tests hgroup.ended hgroup.strength_eq]
  rfl

theorem select_run (g : Grammar) {r : Report} (h : r.IsPlain) :
    g.above.above.above.select (d + 2) (tokensOf r.pieces) =
      some (r.select, tokensOf r.ending) := by
  have hne (word : String) (hw : "ORDER" ≠ word) :
      ∀ t ∈ (tokensOf r.ending).head?, t.keyword ≠ word :=
    keyword_ne_of_connective (by simp [connectives]) hw _
  have hlist (word : String) (hw : "ORDER" ≠ word) :
      listAfter [word, "BY"] g.above.above.above.exprs (d + 2) (tokensOf r.ending) =
        some ([], tokensOf r.ending) := listAfter_run_of_ne _ (hne word hw) _
  have hafter (word : String) (hw : "ORDER" ≠ word) :
      afterKeyword? word g.above.above.above.expr (d + 2) (tokensOf r.ending) =
        some (none, tokensOf r.ending) := afterKeyword?_run_of_ne _ (hne word hw) _
  have hwindows : listAfter ["WINDOW"] (commaList g.above.above.above.namedWindow) (d + 2)
      (tokensOf r.ending) = some ([], tokensOf r.ending) :=
    listAfter_run_of_ne _ (hne "WINDOW" (by decide)) _
  have hsources : listAfter ["FROM"] (commaList g.above.above.above.source) (d + 2)
      (.word (.bare "FROM") :: .word (.bare r.table) :: .word (.bare "WHERE") ::
        tokensOf r.condition) =
        some ([⟨.table [⟨r.table, none⟩] none [] none [], []⟩],
          .word (.bare "WHERE") :: tokensOf r.condition) :=
    sources_run g.above.above h.table (keyword_of_connective (by simp [connectives]))
      (.bare r.test.column) (tokensOf r.condition.tail)
  have hgroups := groupBy_run (d := d + 1) g.above.above h.group (closed_ending r).2
    (hne _ (by decide)) (word_ne_symbol ",")
  obtain ⟨hquantifier, htop, hitems⟩ := headings_run (d := d) g h
  rw [select]
  refine bind_run_of_eq hquantifier (bind_run_of_eq htop (bind_run_of_eq hitems ?_))
  refine bind_run_of_eq (into?_run_of_from _) (bind_run_of_eq hsources ?_)
  refine bind_run_of_eq (views_run_of_where _ _) (bind_run_of_eq (condition_run g h) ?_)
  refine bind_run_of_eq hgroups (bind_run_of_eq (hlist "CLUSTER" (by decide)) ?_)
  refine bind_run_of_eq (hlist "DISTRIBUTE" (by decide)) ?_
  refine bind_run_of_eq (hlist "SORT" (by decide)) ?_
  refine bind_run_of_eq (hafter "HAVING" (by decide)) (bind_run_of_eq hwindows ?_)
  refine bind_run_of_eq (hafter "QUALIFY" (by decide)) ?_
  simp only [pure_run, Report.select, List.map_map, Function.comp_def, List.map_nil,
    List.flatMap_nil]

theorem limits_run (g : Grammar) (limit : Option Nat) :
    g.above.above.limits (d + 1) (tokensOf (Report.limiting limit)) =
      some ((limit.map holeOf, none), []) := by
  cases limit with
  | none => rfl
  | some n =>
    have hlimit : (Word.bare "LIMIT").keyword = "LIMIT" :=
      keyword_of_connective (by simp [connectives])
    have he : g.above.above.limit (d + 1) [.placeholder (holeName n)] =
        some (some (holeOf n), []) := by
      rw [limit, bind_run, keyword?_run_of_ne (by rintro t ⟨⟩; simp [Token.keyword]),
        Option.bind_some, if_neg Bool.false_ne_true, map_run,
        expr_run_of_hole g.above n Ended.nil rfl]
      rfl
    change g.above.above.limits (d + 1) [.word (.bare "LIMIT"), .placeholder (holeName n)] = _
    simp only [limits, limits.round, bind_run, Option.isSome_none, Bool.false_eq_true, if_false,
      keyword?_run_of_eq (t := .word _) hlimit, Option.bind_some, if_true, he]
    rfl

theorem readBody_run (g : Grammar) {r : Report} (h : r.IsPlain) :
    g.above.above.above.readBody 0 (d + 2) (.word (.bare "SELECT") :: tokensOf r.pieces) =
      some (.select r.select, tokensOf r.ending) := by
  have hselect : (Word.bare "SELECT").keyword = "SELECT" :=
    keyword_of_connective (by simp [connectives])
  have hhead : (tokensOf r.ending).head? = some (.word (.bare "ORDER")) := rfl
  have hlookup : setStrengths.lookup (Token.word (.bare "ORDER")).keyword = none := by
    decide
  have hsimple : g.above.above.above.simpleBody (d + 2)
      (.word (.bare "SELECT") :: tokensOf r.pieces) =
        some (.select r.select, tokensOf r.ending) := by
    rw [simpleBody, bind_run, keyword?_run_of_eq (t := .word _) hselect, Option.bind_some,
      if_pos rfl, map_run, select_run g h]
    rfl
  rw [readBody, bind_run, hsimple, Option.bind_some, iterate_run (.last ?_)]
  simp only [bind_run, peek?_run, Option.bind_some, hhead, hlookup, pure_run]

theorem readQuery_run (g : Grammar) {r : Report} (h : r.IsPlain) :
    g.above.above.above.readQuery (d + 3) (.word (.bare "SELECT") :: tokensOf r.pieces) =
      some (r.query, []) := by
  have hwith : keyword? "WITH" (d + 2) (.word (.bare "SELECT") :: tokensOf r.pieces) =
      some (false, .word (.bare "SELECT") :: tokensOf r.pieces) :=
    keyword?_run_of_ne (keyword_ne_of_connective (by simp [connectives]) (by decide) _) _
  have hclosed : Closed (tokensOf (Report.limiting r.limit)) ∧
      ∀ t ∈ (tokensOf (Report.limiting r.limit)).head?, t ≠ .symbol "," := by
    cases r.limit with
    | none => exact ⟨by rintro t ⟨⟩, by rintro t ⟨⟩⟩
    | some n => exact ⟨.word (by decide) _, word_ne_symbol ","⟩
  have horders : g.above.above.above.orderBy (d + 2) (tokensOf r.ending) =
      some ((r.sorting :: r.sortings).map fun i => (i.field.expr, i.order),
        tokensOf (Report.limiting r.limit)) := by
    rw [Report.ending, tokensOf_append, tokensOf_append]
    exact orderBy_run g.above h.sortings hclosed.1 hclosed.2
  have hfetch : fetch? (d + 2) [] = some ((none, none), []) := rfl
  have hlocks : locks (d + 2) [] = some ([], []) := rfl
  rw [readQuery, deeper_run]
  refine bind_run_of_eq hwith ?_
  rw [if_neg Bool.false_ne_true]
  refine bind_run_of_eq (pure_run false _ _) (bind_run_of_eq (pure_run [] _ _) ?_)
  refine bind_run_of_eq (readBody_run g h) (bind_run_of_eq horders ?_)
  refine bind_run_of_eq (limits_run g.above r.limit) (bind_run_of_eq hfetch ?_)
  refine bind_run_of_eq hlocks ?_
  simp only [pure_run, Report.query, List.map_map, Function.comp_def, Option.map_none,
    Option.getD_none]

theorem readStatements_run (g : Grammar) {r : Report} (h : r.IsPlain) :
    g.above.above.above.above.readStatements (d + 4)
      (.word (.bare "SELECT") :: tokensOf r.pieces) = some ([some r.query], []) := by
  have hselect : (Word.bare "SELECT").keyword = "SELECT" :=
    keyword_of_connective (by simp [connectives])
  have hstatement : g.above.above.above.above.statement (d + 4)
      (.word (.bare "SELECT") :: tokensOf r.pieces) = some (some r.query, []) := by
    have hbegins : beginsQuery (.word (.bare "SELECT")) = true := by decide
    change g.above.above.above.readStatement (d + 4) _ = _
    rw [readStatement, deeper_run, bind_run, peek?_run, Option.bind_some]
    simp only [List.head?_cons, hbegins, if_true, map_run, readQuery_run g h, Option.map_some]
  have hnone : separators (d + 4) (.word (.bare "SELECT") :: tokensOf r.pieces) =
      some (false, .word (.bare "SELECT") :: tokensOf r.pieces) := by
    refine iterate_run (.last ?_)
    rw [bind_run, symbol?_run_of_ne (word_ne_symbol _)]
    rfl
  have hend : isKeyword "END" (.word (.bare "SELECT")) = false := by decide
  have hfirst : g.above.above.above.above.nextStatement [] (d + 4)
      (.word (.bare "SELECT") :: tokensOf r.pieces) = some (some [some r.query], []) := by
    simp only [nextStatement, bind_run, hnone, Option.bind_some, peek?_run, List.head?_cons, hend,
      Bool.false_eq_true, if_false, List.isEmpty_nil, Bool.true_or, ensure_run, hstatement,
      pure_run]
  have hlast : g.above.above.above.above.nextStatement [some r.query] (d + 4) [] =
      some (none, []) := rfl
  rw [readStatements, bind_run, iterate_run (.more hfirst (by simp) (.last hlast))]
  rfl

end Grammar

theorem valid_of_word {s : String} (h : IsOrdinary s) : (Piece.word s).IsValid := h.isAllowed

theorem valid_field {f : Field} (h : ∀ s ∈ f.names, IsOrdinary s) : ∀ p ∈ f.pieces, p.IsValid := by
  cases f with
  | plain c =>
    rintro p ⟨⟩
    · exact valid_of_word (h c (by simp [Field.names]))
    · contradiction
  | applied f c =>
    intro p hp
    simp only [Field.pieces, List.mem_cons, List.not_mem_nil, or_false] at hp
    rcases hp with rfl | rfl | rfl
    · exact valid_of_word (h f (by simp [Field.names]))
    · exact valid_of_word (h c (by simp [Field.names]))
    · trivial

theorem valid_listedPieces {α : Type} {pieces : α → List Piece} {x : α} {xs : List α}
    (h : ∀ y ∈ x :: xs, ∀ p ∈ pieces y, p.IsValid) : ∀ p ∈ listedPieces pieces x xs, p.IsValid := by
  intro p hp
  rcases List.mem_append.mp hp with hp | hp
  · exact h x List.mem_cons_self p hp
  · obtain ⟨y, hy, hp⟩ := List.mem_flatMap.mp hp
    rcases List.mem_cons.mp hp with rfl | hp
    · trivial
    · exact h y (List.mem_cons_of_mem x hy) p hp

theorem valid_test {t : Test} (h : IsOrdinary t.column) : ∀ p ∈ t.pieces, p.IsValid := by
  intro p hp
  rcases List.mem_cons.mp hp with rfl | hp
  · exact valid_of_word h
  · cases t with
    | equals _ n | differs _ n =>
      simp only [Test.behind, List.mem_cons, List.not_mem_nil, or_false] at hp
      rcases hp with rfl | rfl <;> trivial
    | within _ n ns =>
      simp only [Test.behind, List.mem_append, List.mem_cons, List.mem_flatMap, List.not_mem_nil,
        or_false] at hp
      rcases hp with (rfl | rfl | ⟨m, -, rfl | rfl⟩) | rfl
      · exact isAllowed_of_connective "IN" (by simp [connectives])
      all_goals trivial
    | between _ low high =>
      simp only [Test.behind, List.mem_cons, List.not_mem_nil, or_false] at hp
      rcases hp with rfl | rfl | rfl | rfl
      · exact isAllowed_of_connective "BETWEEN" (by simp [connectives])
      · trivial
      · exact isAllowed_of_connective "AND" (by simp [connectives])
      · trivial

/-- Every piece of a plain report is valid. -/
theorem valid_pieces {r : Report} (h : r.IsPlain) : ∀ p ∈ r.pieces, p.IsValid := by
  have hkeyword := isAllowed_of_connective
  simp only [connectives, List.forall_mem_cons] at hkeyword
  obtain ⟨-, has, hfrom, hwhere, -, -, hand, hgroup, hby, horder, hasc, hdesc, hnulls, hlast,
    hlimit, -⟩ := hkeyword
  have hheading : ∀ i ∈ r.heading :: r.headings, ∀ p ∈ i.pieces, p.IsValid := by
    intro i hi
    rw [Heading.pieces, List.forall_mem_append]
    exact ⟨valid_field (h.fields i hi), by simpa using ⟨has, valid_of_word (h.labels i hi)⟩⟩
  have hsorting : ∀ i ∈ r.sorting :: r.sortings, ∀ p ∈ i.pieces, p.IsValid := by
    intro i hi
    rw [Sorting.pieces, List.forall_mem_append, List.forall_mem_append]
    refine ⟨⟨valid_field (h.sortings i hi), ?_⟩, ?_⟩
    · rcases i.descending with _ | _ | _
      · simp [Sorting.direction]
      · simpa [Sorting.direction] using show (Piece.word "ASC").IsValid from hasc
      · simpa [Sorting.direction] using show (Piece.word "DESC").IsValid from hdesc
    · cases i.nullsLast with
      | false => simp [Sorting.nulls]
      | true => simpa [Sorting.nulls] using ⟨hnulls, hlast⟩
  have hcondition : ∀ p ∈ conjunctionPieces r.test r.tests, p.IsValid := by
    rw [conjunctionPieces, List.forall_mem_append]
    refine ⟨valid_test (h.tests r.test List.mem_cons_self), fun p hp => ?_⟩
    obtain ⟨t, ht, hp⟩ := List.mem_flatMap.mp hp
    rcases List.mem_cons.mp hp with rfl | hp
    · exact hand
    · exact valid_test (h.tests t (List.mem_cons_of_mem _ ht)) p hp
  have hgrouping : ∀ p ∈ Report.grouping r.group, p.IsValid := by
    cases hg : r.group with
    | none => simp [Report.grouping]
    | some c => simpa [Report.grouping] using ⟨hgroup, hby, valid_of_word (h.group c hg)⟩
  have hlimiting : ∀ p ∈ Report.limiting r.limit, p.IsValid := by
    cases r.limit with
    | none => simp [Report.limiting]
    | some n => simpa [Report.limiting] using ⟨hlimit, trivial⟩
  simp only [Report.pieces, Report.condition, Report.ending, List.forall_mem_append,
    List.forall_mem_cons]
  exact ⟨valid_listedPieces hheading, ⟨hfrom, valid_of_word h.table, hwhere, by simp⟩, hcondition,
    hgrouping, ⟨horder, hby, by simp⟩, valid_listedPieces hsorting, hlimiting⟩

theorem toList_text (r : Report) : r.text.toList = "SELECT".toList ++ textOf r.pieces := by
  rw [Report.text, String.toList_append, toList_spelled]

/-- The text of a plain report is one statement, and the report's tree is what it is read as. -/
theorem statements?_text {r : Report} (h : r.IsPlain) :
    statements? r.text = some [some r.query] := by
  have hlex : lex r.text = some (.word (.bare "SELECT") :: tokensOf r.pieces) :=
    lex_eq (toList_text r) (isAllowed_of_connective "SELECT" (by simp [connectives])).toIsWord
      (valid_pieces h)
  obtain ⟨ts, hts⟩ := Grammar.starts_pieces r
  have hlevels : (Token.word (.bare "SELECT") :: tokensOf r.pieces).length + 2 = ts.length + 4 := by
    rw [hts]
    rfl
  rw [statements?, hlex, Option.bind_eq_bind, Option.bind_some, hlevels]
  change ((Grammar.levels ts.length).above.above.above.above.readStatements (46 + 4) _).bind _ = _
  rw [Grammar.readStatements_run _ h]
  rfl

end BankQuery.Sql
