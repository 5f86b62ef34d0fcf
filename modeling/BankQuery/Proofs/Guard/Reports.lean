import BankQuery.Proofs.Guard.Words
import BankQuery.Proofs.Sql.Reading

/-!
# Reports before the guard

A plain report is let through if its table is known, its columns are those of the table, its
functions are aggregates, its placeholders are the parameters of the candidate, and one of its tests
holds the months between two of them.
-/

namespace BankQuery.Sql

open Guard

def Field.Fits (t : Table) : Field → Prop
  | .plain c => t.hasColumn c = true
  | .applied f c => f ∈ allowedFunctions ∧ t.hasColumn c = true

structure Report.Fits (t : Table) (r : Report) : Prop where
  fields : ∀ h ∈ r.heading :: r.headings, h.field.Fits t
  tests : ∀ u ∈ r.test :: r.tests, t.hasColumn u.column = true
  group : ∀ c ∈ r.group, t.hasColumn c = true
  sortings : ∀ s ∈ r.sorting :: r.sortings, s.field.Fits t

def Field.column : Field → String
  | .plain c => c
  | .applied _ c => c

/-- Every column that the report names has the property. -/
structure Report.Columns (p : String → Prop) (r : Report) : Prop where
  fields : ∀ h ∈ r.heading :: r.headings, p h.field.column
  tests : ∀ u ∈ r.test :: r.tests, p u.column
  group : ∀ c ∈ r.group, p c
  sortings : ∀ s ∈ r.sorting :: r.sortings, p s.field.column

structure Report.Aggregates (r : Report) : Prop where
  fields : ∀ h ∈ r.heading :: r.headings, ∀ f c, h.field = .applied f c → f ∈ allowedFunctions
  sortings : ∀ s ∈ r.sorting :: r.sortings, ∀ f c, s.field = .applied f c → f ∈ allowedFunctions

theorem Field.fits_of_column {f : Field} {t : Table}
    (ha : ∀ g c, f = .applied g c → g ∈ allowedFunctions) (hc : t.hasColumn f.column = true) :
    f.Fits t := by
  cases f with
  | plain c => exact hc
  | applied g c => exact ⟨ha g c rfl, hc⟩

theorem Field.isOrdinary_of_column {f : Field}
    (ha : ∀ g c, f = .applied g c → g ∈ allowedFunctions) (hc : IsOrdinary f.column) :
    ∀ s ∈ f.names, IsOrdinary s := by
  have hfunctions : ∀ f ∈ allowedFunctions, IsOrdinary f := by decide +kernel
  intro s hs
  cases f with
  | plain c =>
    rw [List.mem_singleton.mp hs]
    exact hc
  | applied g c =>
    rcases List.mem_cons.mp hs with rfl | hs
    · exact hfunctions s (ha s c rfl)
    · rw [List.mem_singleton.mp hs]
      exact hc

namespace Report

variable {r : Report}

theorem fits_of_columns {t : Table} (ha : r.Aggregates)
    (hc : r.Columns fun c => t.hasColumn c = true) : r.Fits t where
  fields h hh := Field.fits_of_column (ha.fields h hh) (hc.fields h hh)
  tests := hc.tests
  group := hc.group
  sortings s hs := Field.fits_of_column (ha.sortings s hs) (hc.sortings s hs)

theorem isPlain_of_columns (ha : r.Aggregates) (hc : r.Columns IsOrdinary)
    (ht : IsOrdinary r.table) (hl : ∀ h ∈ r.heading :: r.headings, IsOrdinary h.label) :
    r.IsPlain where
  fields h hh := Field.isOrdinary_of_column (ha.fields h hh) (hc.fields h hh)
  labels := hl
  table := ht
  tests := hc.tests
  group := hc.group
  sortings s hs := Field.isOrdinary_of_column (ha.sortings s hs) (hc.sortings s hs)

end Report

theorem allOf_eq_flatMap (es : List Expr) : Expr.allOf es = es.flatMap Expr.all := by
  induction es with
  | nil => rfl
  | cons e es ih =>
    rw [Expr.allOf, ih]
    rfl

theorem expressions_query (r : Report) : r.query.expressions =
    (r.heading :: r.headings).flatMap (fun h => h.field.expr.all) ++
      (conjunction r.test r.tests).all ++ r.group.toList.map columnOf ++
        (r.sorting :: r.sortings).flatMap (fun s => s.field.expr.all) ++
          r.limit.toList.map holeOf := by
  have hgroup : Expr.allOf (r.group.toList.map columnOf) = r.group.toList.map columnOf := by
    cases r.group <;> rfl
  have hlimit : Expr.allOfOption (r.limit.map holeOf) = r.limit.toList.map holeOf := by
    cases r.limit <;> rfl
  have hsources : Source.expressionsOf r.select.sources = [] := rfl
  have hcondition : Expr.allOfOption r.select.condition = (conjunction r.test r.tests).all := rfl
  change Cte.expressions [] ++ (Expr.allOf [] ++ Expr.allOfOption none ++
    Expr.allOf ((r.heading :: r.headings).map fun h => h.field.expr) ++
    Source.expressionsOf r.select.sources ++ Expr.allOf [] ++
    Expr.allOfOption r.select.condition ++ Expr.allOf (r.group.toList.map columnOf) ++
    Expr.allOf [] ++ Expr.allOf [] ++ Expr.allOf [] ++ Expr.allOfOption none ++ Expr.allOf [] ++
    Expr.allOfOption none) ++ Expr.allOf ((r.sorting :: r.sortings).map fun s => s.field.expr) ++
    Expr.allOfOption (r.limit.map holeOf) ++ Expr.allOfOption none ++ Expr.allOfOption none = _
  simp only [Cte.expressions, Expr.allOfOption, hgroup, hlimit, hsources, hcondition,
    allOf_eq_flatMap, List.flatMap_nil, List.nil_append, List.append_nil, List.flatMap_map]

section Conjunction

variable {first : Test} {others : List Test} {e : Expr}

theorem mem_all_conjunction (h : e ∈ (conjunction first others).all) :
    (∃ left right, e = .binary .and left right) ∨ ∃ t ∈ first :: others, e ∈ t.expr.all := by
  have hfold (others : List Test) (start : Expr)
      (h : e ∈ (others.foldl (fun e t => .binary .and e t.expr) start).all) :
      (∃ left right, e = .binary .and left right) ∨ e ∈ start.all ∨
        ∃ t ∈ others, e ∈ t.expr.all := by
    induction others generalizing start with
    | nil => exact .inr (.inl h)
    | cons t others ih =>
      rcases ih _ h with h | h | ⟨u, hu, h⟩
      · exact .inl h
      · rcases List.mem_cons.mp h with h | h
        · exact .inl ⟨_, _, h⟩
        · rcases List.mem_append.mp h with h | h
          · exact .inr (.inl h)
          · exact .inr (.inr ⟨t, List.mem_cons_self, h⟩)
      · exact .inr (.inr ⟨u, List.mem_cons_of_mem t hu, h⟩)
  rcases hfold others first.expr h with h | h | ⟨t, ht, h⟩
  · exact .inl h
  · exact .inr ⟨first, List.mem_cons_self, h⟩
  · exact .inr ⟨t, List.mem_cons_of_mem first ht, h⟩

theorem allOf_holes (ns : List Nat) : Expr.allOf (ns.map holeOf) = ns.map holeOf := by
  induction ns with
  | nil => rfl
  | cons n ns ih =>
    rw [List.map_cons, Expr.allOf, ih]
    rfl

theorem all_within (c : String) (n : Nat) (ns : List Nat) : (Test.within c n ns).expr.all =
    (Test.within c n ns).expr :: columnOf c :: (n :: ns).map holeOf := by
  change (Test.within c n ns).expr :: Expr.allOf (columnOf c :: (n :: ns).map holeOf) = _
  rw [Expr.allOf, allOf_holes]
  rfl

theorem placeholders_holes (ns : List Nat) :
    (ns.map holeOf).filterMap placeholder? = ns.map holeName := by
  rw [List.filterMap_map]
  exact congrFun List.filterMap_eq_map ns

theorem placeholders_test (t : Test) :
    t.expr.all.filterMap placeholder? = t.holes.map holeName := by
  cases t with
  | equals _ _ | differs _ _ | between _ _ _ => rfl
  | within c n ns =>
    rw [all_within]
    exact placeholders_holes (n :: ns)

theorem checkExpr_of_mem_test {t : Test} {tables : List Table}
    (h : tables.any (·.hasColumn t.column) = true) (he : e ∈ t.expr.all) :
    checkExpr tables e = .ok () := by
  have hcolumn : checkExpr tables (columnOf t.column) = .ok () := demand_eq_ok_iff.mpr h
  cases t with
  | equals c n | differs c n =>
    rcases List.mem_cons.mp he with rfl | he
    · rfl
    · rcases List.mem_cons.mp he with rfl | he
      · exact hcolumn
      · rw [List.mem_singleton.mp he]
        rfl
  | within c n ns =>
    rw [all_within] at he
    rcases List.mem_cons.mp he with rfl | he
    · rfl
    · rcases List.mem_cons.mp he with rfl | he
      · exact hcolumn
      · obtain ⟨m, -, rfl⟩ := List.mem_map.mp he
        rfl
  | between c low high =>
    rcases List.mem_cons.mp he with rfl | he
    · rfl
    · rcases List.mem_cons.mp he with rfl | he
      · exact hcolumn
      · rcases List.mem_cons.mp he with rfl | he
        · rfl
        · rw [List.mem_singleton.mp he]
          rfl

theorem placeholders_conjunction : (conjunction first others).all.filterMap placeholder? =
    ((first :: others).flatMap Test.holes).map holeName := by
  have hfold (others : List Test) (start : Expr) :
      (others.foldl (fun e t => .binary .and e t.expr) start).all.filterMap placeholder? =
        start.all.filterMap placeholder? ++ (others.flatMap Test.holes).map holeName := by
    induction others generalizing start with
    | nil => simp
    | cons t others ih =>
      rw [List.foldl_cons, ih, List.flatMap_cons, List.map_append, ← placeholders_test,
        ← List.append_assoc, ← List.filterMap_append]
      rfl
  rw [conjunction, hfold, placeholders_test, List.flatMap_cons, List.map_append]

theorem conjuncts_conjunction :
    conjuncts (conjunction first others) = (first :: others).map Test.expr := by
  have htest (t : Test) : conjuncts t.expr = [t.expr] := by
    cases t with
    | _ => rfl
  have hfold (others : List Test) (start : Expr) :
      conjuncts (others.foldl (fun e t => .binary .and e t.expr) start) =
        conjuncts start ++ others.map Test.expr := by
    induction others generalizing start with
    | nil => simp
    | cons t others ih =>
      rw [List.foldl_cons, ih, conjuncts, htest, List.append_assoc]
      rfl
  rw [conjunction, hfold, htest]
  rfl

end Conjunction

theorem checkExpr_of_mem_field {f : Field} {t : Table} (h : f.Fits t) {e : Expr}
    (he : e ∈ f.expr.all) : checkExpr [t] e = .ok () := by
  have hcolumn {c : String} (hc : t.hasColumn c = true) : checkExpr [t] (columnOf c) = .ok () :=
    demand_eq_ok_iff.mpr (by simp [hc])
  cases f with
  | plain c =>
    rw [List.mem_singleton.mp he]
    exact hcolumn h
  | applied f c =>
    rcases List.mem_cons.mp he with rfl | he
    · have hname : printNames [⟨f, none⟩] = f := String.intercalate_singleton
      have hupper : ∀ f ∈ allowedFunctions, allowedFunctions.contains (Text.upper f) = true := by
        decide
      refine demand_eq_ok_iff.mpr ?_
      rw [hname]
      exact hupper f h.1
    · rw [List.mem_singleton.mp he]
      exact hcolumn h.2

theorem placeholders_field (f : Field) : f.expr.all.filterMap placeholder? = [] := by
  cases f with
  | _ => rfl

theorem placeholders_query (r : Report) :
    r.query.expressions.filterMap placeholder? = r.holes.map holeName := by
  have hgroup : (r.group.toList.map columnOf).filterMap placeholder? = [] := by
    cases r.group <;> rfl
  have hnone {α : Type} (xs : List α) : xs.flatMap (fun _ => ([] : List String)) = [] :=
    List.flatMap_eq_nil_iff.mpr fun _ _ => rfl
  simp only [expressions_query, List.filterMap_append, List.filterMap_flatMap, placeholders_field,
    hgroup, hnone, placeholders_conjunction, placeholders_holes, Report.holes, List.map_append,
    List.append_nil, List.nil_append]

/-- Each expression of a report that asks for what the table has is allowed. -/
theorem checkExpr_of_mem_query {r : Report} {t : Table} (h : r.Fits t) {e : Expr}
    (he : e ∈ r.query.expressions) : checkExpr [t] e = .ok () := by
  simp only [expressions_query, List.mem_append, List.mem_flatMap, or_assoc] at he
  rcases he with ⟨i, hi, he⟩ | he | he | ⟨s, hs, he⟩ | he
  · exact checkExpr_of_mem_field (h.fields i hi) he
  · rcases mem_all_conjunction he with ⟨left, right, rfl⟩ | ⟨u, hu, he⟩
    · rfl
    · exact checkExpr_of_mem_test (by simp [h.tests u hu]) he
  · obtain ⟨c, hc, rfl⟩ := List.mem_map.mp he
    exact demand_eq_ok_iff.mpr (by simp [h.group c (Option.mem_toList.mp hc)])
  · exact checkExpr_of_mem_field (h.sortings s hs) he
  · obtain ⟨n, -, rfl⟩ := List.mem_map.mp he
    rfl

theorem columnOf_mem_test (t : Test) : columnOf t.column ∈ t.expr.all := by
  cases t with
  | equals _ _ | differs _ _ | between _ _ _ =>
    exact List.mem_cons_of_mem _ List.mem_cons_self
  | within c n ns =>
    rw [all_within]
    exact List.mem_cons_of_mem _ List.mem_cons_self

theorem columnOf_mem_field (f : Field) : columnOf f.column ∈ f.expr.all := by
  cases f with
  | plain _ => exact List.mem_cons_self
  | applied _ _ => exact List.mem_cons_of_mem _ List.mem_cons_self

theorem mem_conjunction_of_mem {first : Test} {others : List Test} {u : Test}
    (hu : u ∈ first :: others) {e : Expr} (he : e ∈ u.expr.all) :
    e ∈ (conjunction first others).all := by
  have hfold (others : List Test) (start : Expr) (h : e ∈ start.all ∨ u ∈ others) :
      e ∈ (others.foldl (fun e t => .binary .and e t.expr) start).all := by
    induction others generalizing start with
    | nil => exact h.resolve_right List.not_mem_nil
    | cons t others ih =>
      refine ih _ ?_
      rcases h with h | h
      · exact .inl (List.mem_cons_of_mem _ (List.mem_append_left _ h))
      · rcases List.mem_cons.mp h with rfl | h
        · exact .inl (List.mem_cons_of_mem _ (List.mem_append_right _ he))
        · exact .inr h
  rcases List.mem_cons.mp hu with rfl | hu
  · exact hfold others _ (.inl he)
  · exact hfold others _ (.inr hu)

/-- If each expression is allowed, the columns are those of the table. -/
theorem Report.columns_of_checkExpr {r : Report} {t : Table}
    (h : ∀ e ∈ r.query.expressions, checkExpr [t] e = .ok ()) :
    r.Columns fun c => t.hasColumn c = true := by
  have hcolumn {c : String} (hc : columnOf c ∈ r.query.expressions) : t.hasColumn c = true := by
    simpa using demand_eq_ok_iff.mp (h _ hc)
  simp only [expressions_query, List.mem_append, List.mem_flatMap, or_assoc] at hcolumn
  exact
    { fields := fun i hi => hcolumn (.inl ⟨i, hi, columnOf_mem_field i.field⟩)
      tests := fun u hu => hcolumn (.inr (.inl (mem_conjunction_of_mem hu (columnOf_mem_test u))))
      group := fun c hc => hcolumn (.inr (.inr (.inl (List.mem_map_of_mem
        (Option.mem_toList.mpr hc)))))
      sortings := fun s hs => hcolumn (.inr (.inr (.inr (.inl ⟨s, hs,
        columnOf_mem_field s.field⟩)))) }

end BankQuery.Sql

namespace BankQuery.Guard

open Sql

theorem holeName_injective {m n : Nat} (h : holeName m = holeName n) : m = n := by
  have hd : Nat.toDigits 10 m = Nat.toDigits 10 n := by
    rw [← Nat.toList_repr, ← Nat.toList_repr]
    have hl := congrArg String.toList h
    rw [holeName, holeName, String.toList_append, String.toList_append] at hl
    exact List.append_cancel_left hl
  rw [← Nat.ofDigitChars_ten_toDigits (n := m), hd, Nat.ofDigitChars_ten_toDigits]

/-- A candidate whose statement is a plain report of what a known table has, whose parameters are
the placeholders of the report, and one of whose tests bounds the time, is let through. -/
theorem check_report {schema : Schema} {c : Candidate} {r : Report} {t : Table} {ns : List Nat}
    {low high : Nat} (hplain : r.IsPlain) (hfits : r.Fits t)
    (htable : schema.table? r.table = some t) (hstatement : c.statement = r.text)
    (htables : c.tables = [r.table])
    (hparameters : c.parameters.map Parameter.name = ns.map holeName)
    (hnodup : ns.Nodup) (hholes : ∀ n, n ∈ r.holes ↔ n ∈ ns)
    (htime : Test.between t.timeColumn low high ∈ r.test :: r.tests) :
    check schema c = .ok () := by
  refine check_eq_ok_iff.mpr ⟨?_, ?_, r.query, ?_, r.select, t, [], ?_⟩
  · rw [hstatement]
    exact checkText_eq_ok (toList_text r)
      (isAllowed_of_connective "SELECT" (by simp [connectives])) (valid_pieces hplain)
  · rw [htables]
    simp [htable]
  · rw [hstatement]
    exact statements?_text hplain
  · exact
      { ctes := rfl
        locks := rfl
        body := rfl
        into := rfl
        tables := by
          change [Relation.table [⟨r.table, none⟩] none [] none []].mapM (tableOf schema) = _
          rw [List.mapM_cons, List.mapM_nil, tableOf]
          simp [htable]
        items := by
          simp only [Report.select, List.any_eq_false, List.mem_map]
          rintro e ⟨i, -, rfl⟩
          cases i.field with
          | _ => exact Bool.false_ne_true
        exprs := fun e he => checkExpr_of_mem_query hfits he
        placeholders := by
          rw [placeholders_query, hparameters]
          refine checkPlaceholders_eq_ok_iff.mpr
            ⟨List.Pairwise.map _ (fun _ _ hne he => hne (holeName_injective he)) hnodup,
              fun name => ?_⟩
          simp only [List.mem_map, hholes]
        bounded := by
          rw [Bool.or_eq_true]
          refine .inl ?_
          simp only [isTimeBounded, Report.select, conjuncts_conjunction, List.any_eq_true]
          exact ⟨_, List.mem_map_of_mem htime, by
            simp [Test.expr, isTimeBound, columnOf, holeOf, isColumn, isPlaceholder, placeholder?,
              Text.sameAscii_refl]⟩ }

/-- A plain report of a known table that is let through names columns of the table only. -/
theorem columns_of_check {schema : Schema} {c : Candidate} {r : Report} {t : Table}
    (hplain : r.IsPlain) (htable : schema.table? r.table = some t)
    (hstatement : c.statement = r.text) (h : check schema c = .ok ()) :
    r.Columns fun c => t.hasColumn c = true := by
  obtain ⟨-, -, query, hquery, select, primary, others, hp⟩ := check_eq_ok_iff.mp h
  rw [hstatement, statements?_text hplain, Option.some.injEq, List.singleton_inj,
    Option.some.injEq] at hquery
  subst hquery
  have hselect : r.select = select := Body.select.inj hp.body
  have htables : [Relation.table [⟨r.table, none⟩] none [] none []].mapM (tableOf schema) =
      .ok [t] := by
    rw [List.mapM_cons, List.mapM_nil, tableOf]
    simp [htable]
  have hprimary : primary :: others = [t] := by
    refine Except.ok.inj (hp.tables.symm.trans ?_)
    rw [← hselect]
    exact htables
  refine Report.columns_of_checkExpr fun e he => ?_
  rw [← hprimary]
  exact hp.exprs e he

end BankQuery.Guard
