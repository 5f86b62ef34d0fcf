import BankQuery.Guard.Check

/-!
# What the guard lets through

One statement for each step of `Guard.check` says when the step passes; `check_eq_ok_iff` puts them
together. What is proved of a statement that is let through starts from there, and so does the proof
that a statement is let through.
-/

namespace BankQuery.Guard

open Sql

variable {schema : Schema} {c : Candidate} {query : Query} {select : Select}

theorem bind_eq_ok_iff {ε α β : Type} {x : Except ε α} {f : α → Except ε β} {b : β} :
    (x >>= f) = .ok b ↔ ∃ a, x = .ok a ∧ f a = .ok b := by
  cases x with
  | error e => simp [bind, Except.bind]
  | ok a => simp [bind, Except.bind]

theorem check_bind_eq_ok_iff {ε β : Type} {x : Except ε Unit} {f : Unit → Except ε β} {b : β} :
    (x >>= f) = .ok b ↔ x = .ok () ∧ f () = .ok b := by
  rw [bind_eq_ok_iff]
  exact ⟨fun ⟨_, hx, hf⟩ => ⟨hx, hf⟩, fun ⟨hx, hf⟩ => ⟨(), hx, hf⟩⟩

theorem eq_ok_of_isOk {ε : Type} {x : Except ε Unit} (h : x.isOk = true) : x = .ok () := by
  cases x with
  | error e => simp [Except.isOk, Except.toBool] at h
  | ok _ => rfl

@[simp] theorem demand_eq_ok_iff {condition : Bool} {rejection : Rejection} :
    demand condition rejection = .ok () ↔ condition = true := by
  cases condition <;> simp [demand]

theorem checkText_eq_ok_iff {text : String} :
    checkText text = .ok () ↔ hasSeparator text = false ∧ holds text "--" = false ∧
      holds text "/*" = false ∧ forbiddenPattern.find text = none := by
  unfold checkText
  by_cases hs : hasSeparator text = true
  · simp [hs]
  · by_cases hc : (holds text "--" || holds text "/*") = true
    · rw [if_neg hs, if_pos hc]
      simp only [Bool.or_eq_true] at hc
      rcases hc with hc | hc <;> simp [hc]
    · rw [if_neg hs, if_neg hc]
      simp only [Bool.or_eq_true, not_or, Bool.not_eq_true] at hs hc
      cases hf : forbiddenPattern.find text <;> simp [hs, hc]

theorem checkReferences_eq_ok_iff {tables : List String} :
    checkReferences schema tables = .ok () ↔ ∀ t ∈ tables, (schema.table? t).isSome = true := by
  induction tables with
  | nil => simp [checkReferences]
  | cons t rest ih =>
    unfold checkReferences
    by_cases ht : (schema.table? t).isSome = true
    · simp [ht, ih]
    · simp [ht]

theorem queryOf_eq_ok_iff {text : String} :
    queryOf text = .ok query ↔ statements? text = some [some query] := by
  unfold queryOf
  split <;> simp_all

/-- What is found by evaluation of the query that a text is holds of that query. -/
theorem eq_of_queryOf {α : Type} {text : String} {f : Query → α} {a : α}
    (hs : statements? text = some [some query]) (hf : (queryOf text).toOption.map f = some a) :
    f query = a := by
  rw [queryOf_eq_ok_iff.mpr hs] at hf
  exact Option.some.inj hf

theorem selectOf_eq_ok_iff : selectOf query = .ok select ↔
    query.ctes = [] ∧ query.locks = [] ∧ query.body = .select select ∧ select.into = none := by
  unfold selectOf
  by_cases hw : query.ctes = []
  · by_cases hl : query.locks = []
    · cases query.body with
      | select s =>
        cases hi : s.into with
        | none =>
          simp only [hw, hl, List.isEmpty_nil, Bool.not_true, Bool.false_eq_true, if_false, hi,
            Option.isSome_none, Except.ok.injEq, Body.select.injEq, true_and]
          exact ⟨fun h => ⟨h, h ▸ hi⟩, fun h => h.1⟩
        | some into =>
          simp only [hw, hl, List.isEmpty_nil, Bool.not_true, Bool.false_eq_true, if_false, hi,
            Option.isSome_some, if_true, reduceCtorEq, Body.select.injEq, true_and, false_iff]
          rintro ⟨rfl, hn⟩
          simp [hi] at hn
      | query _ => simp [hw, hl]
      | combined _ _ _ => simp [hw, hl]
      | values _ _ _ => simp [hw, hl]
      | table _ => simp [hw, hl]
    · simp [hw, hl]
  · simp [hw]

theorem tableOf_eq_ok_iff {r : Relation} {table : Table} : tableOf schema r = .ok table ↔
    ∃ name arguments operands asName hints, r = .table name arguments operands asName hints ∧
      schema.table? ((name.getLast?.map Name.text).getD "") = some table := by
  cases r with
  | table name arguments operands asName hints =>
    cases ht : schema.table? ((name.getLast?.map Name.text).getD "") with
    | none => simp [tableOf, ht]
    | some _ => simp [tableOf, ht]
  | derived _ _ _ => simp [tableOf]
  | function _ _ _ _ => simp [tableOf]
  | tableOf _ _ => simp [tableOf]
  | unnest _ _ _ _ => simp [tableOf]
  | nested _ _ => simp [tableOf]
  | pivot _ _ _ _ _ => simp [tableOf]
  | unpivot _ _ _ _ _ => simp [tableOf]

theorem tablesOf_eq_ok_iff {primary : Table} {others : List Table} :
    tablesOf schema select = .ok (primary, others) ↔
      (relationsOf select).mapM (tableOf schema) = .ok (primary :: others) := by
  unfold tablesOf
  rw [bind_eq_ok_iff]
  constructor
  · rintro ⟨tables, ht, hm⟩
    cases tables with
    | nil => simp at hm
    | cons t rest =>
      simp only [Except.ok.injEq, Prod.mk.injEq] at hm
      rw [ht, hm.1, hm.2]
  · exact fun h => ⟨_, h, rfl⟩

theorem mapM_cons_eq_ok {ε α β : Type} {f : α → Except ε β} {x : α} {xs : List α} {zs : List β}
    (h : (x :: xs).mapM f = .ok zs) : ∃ y ys, f x = .ok y ∧ xs.mapM f = .ok ys ∧ zs = y :: ys := by
  rw [List.mapM_cons] at h
  obtain ⟨y, hy, h⟩ := bind_eq_ok_iff.mp h
  obtain ⟨ys, hys, h⟩ := bind_eq_ok_iff.mp h
  cases h
  exact ⟨y, ys, hy, hys, rfl⟩

theorem exists_of_mapM_eq_ok {ε α β : Type} {f : α → Except ε β} {xs : List α} {ys : List β}
    (h : xs.mapM f = .ok ys) : ∀ x ∈ xs, ∃ y ∈ ys, f x = .ok y := by
  induction xs generalizing ys with
  | nil => simp
  | cons x xs ih =>
    obtain ⟨y, rest, hy, hr, rfl⟩ := mapM_cons_eq_ok h
    intro z hz
    rcases List.mem_cons.mp hz with rfl | hz
    · exact ⟨y, List.mem_cons_self, hy⟩
    · obtain ⟨w, hw, hf⟩ := ih hr z hz
      exact ⟨w, List.mem_cons_of_mem y hw, hf⟩

theorem mem_of_mapM_eq_ok {ε α β : Type} {f : α → Except ε β} {xs : List α} {ys : List β}
    (h : xs.mapM f = .ok ys) : ∀ y ∈ ys, ∃ x ∈ xs, f x = .ok y := by
  induction xs generalizing ys with
  | nil =>
    cases h
    simp
  | cons x xs ih =>
    obtain ⟨y, rest, hy, hr, rfl⟩ := mapM_cons_eq_ok h
    intro z hz
    rcases List.mem_cons.mp hz with rfl | hz
    · exact ⟨x, List.mem_cons_self, hy⟩
    · obtain ⟨w, hw, hf⟩ := ih hr z hz
      exact ⟨w, List.mem_cons_of_mem x hw, hf⟩

theorem checkExprs_eq_ok_iff {tables : List Table} {es : List Expr} :
    checkExprs tables es = .ok () ↔ ∀ e ∈ es, checkExpr tables e = .ok () := by
  induction es with
  | nil => simp [checkExprs]
  | cons e rest ih => simp [checkExprs, check_bind_eq_ok_iff, ih]

theorem mem_sortedNames {names : List String} {name : String} :
    name ∈ sortedNames names ↔ name ∈ names := by
  rw [sortedNames, mem_dropRepeats, (sortBy_perm _ names).mem_iff]

theorem nodup_sortedNames (names : List String) : (sortedNames names).Nodup := by
  refine nodup_dropRepeats ?_ (pairwise_sortBy ?_ ?_ names)
  · intro a b hba hab
    exact String.le_antisymm (String.not_lt.mp (of_decide_eq_false hba))
      (String.not_lt.mp (of_decide_eq_false hab))
  · exact fun a b hab => decide_eq_false (String.lt_asymm (of_decide_eq_true hab))
  · intro a b c hab hbc
    refine decide_eq_false (String.not_lt.mpr ?_)
    exact String.le_trans (String.not_lt.mp (of_decide_eq_false hbc))
      (String.not_lt.mp (of_decide_eq_false hab))

theorem length_sortedNames_iff {names : List String} :
    (sortedNames names).length = names.length ↔ names.Nodup := by
  have hperm := sortBy_perm (fun a b => decide (a < b)) names
  constructor
  · intro hl
    have hsub := dropRepeats_sublist (· == ·) (sortBy (fun a b => decide (a < b)) names)
    have he : sortedNames names = sortBy (fun a b => decide (a < b)) names :=
      hsub.eq_of_length (hl.trans hperm.length_eq.symm)
    exact hperm.nodup_iff.mp (he ▸ nodup_sortedNames names)
  · intro hn
    rw [sortedNames, dropRepeats_of_nodup (hperm.nodup_iff.mpr hn), hperm.length_eq]

/-- Placeholders and parameters agree if they are the same names and no parameter is given twice. -/
theorem checkPlaceholders_eq_ok_iff {used bound : List String} :
    checkPlaceholders used bound = .ok () ↔ bound.Nodup ∧ ∀ name, name ∈ used ↔ name ∈ bound := by
  have hfilter (as bs : List String) :
      (sortedNames as).filter (!(sortedNames bs).contains ·) = [] ↔ ∀ name ∈ as, name ∈ bs := by
    rw [List.filter_eq_nil_iff]
    simp [mem_sortedNames]
  unfold checkPlaceholders
  dsimp only
  by_cases hn : bound.Nodup
  · rw [if_neg (not_not_intro (length_sortedNames_iff.mpr hn)), demand_eq_ok_iff, Bool.and_eq_true,
      List.isEmpty_iff, List.isEmpty_iff, hfilter, hfilter]
    simp only [hn, true_and, iff_def, forall_and]
  · rw [if_pos (mt length_sortedNames_iff.mp hn)]
    simp [hn]

/-- What the checks on a query ask of it, its selection and its tables. -/
structure Passes (schema : Schema) (c : Candidate) (query : Query) (select : Select)
    (primary : Table) (others : List Table) : Prop where
  ctes : query.ctes = []
  locks : query.locks = []
  body : query.body = .select select
  into : select.into = none
  tables : (relationsOf select).mapM (tableOf schema) = .ok (primary :: others)
  items : select.items.any isStar = false
  exprs : ∀ e ∈ query.expressions, checkExpr (primary :: others) e = .ok ()
  placeholders : checkPlaceholders (query.expressions.filterMap placeholder?)
    (c.parameters.map Parameter.name) = .ok ()
  bounded : (isTimeBounded primary.timeColumn select || isLimitedRanking c query) = true

theorem checkQuery_eq_ok_iff : checkQuery schema c query = .ok () ↔
    ∃ select primary others, Passes schema c query select primary others := by
  unfold checkQuery
  rw [bind_eq_ok_iff]
  constructor
  · rintro ⟨select, hs, h⟩
    obtain ⟨⟨primary, others⟩, ht, h⟩ := bind_eq_ok_iff.mp h
    simp only [check_bind_eq_ok_iff, demand_eq_ok_iff, checkExprs_eq_ok_iff, Bool.not_eq_eq_eq_not,
      Bool.not_true] at h
    obtain ⟨hw, hl, hb, hi⟩ := selectOf_eq_ok_iff.mp hs
    obtain ⟨hstar, he, hp, hr⟩ := h
    exact ⟨select, primary, others, hw, hl, hb, hi, tablesOf_eq_ok_iff.mp ht, hstar, he, hp, hr⟩
  · rintro ⟨select, primary, others, h⟩
    refine ⟨select, selectOf_eq_ok_iff.mpr ⟨h.ctes, h.locks, h.body, h.into⟩, ?_⟩
    refine bind_eq_ok_iff.mpr ⟨(primary, others), tablesOf_eq_ok_iff.mpr h.tables, ?_⟩
    simp only [check_bind_eq_ok_iff, demand_eq_ok_iff, checkExprs_eq_ok_iff, Bool.not_eq_eq_eq_not,
      Bool.not_true]
    exact ⟨h.items, h.exprs, h.placeholders, h.bounded⟩

theorem check_eq_ok_iff : check schema c = .ok () ↔
    checkText c.statement = .ok () ∧ (∀ t ∈ c.tables, (schema.table? t).isSome = true) ∧
      ∃ query, statements? c.statement = some [some query] ∧
        ∃ select primary others, Passes schema c query select primary others := by
  unfold check
  rw [check_bind_eq_ok_iff, check_bind_eq_ok_iff, checkReferences_eq_ok_iff, bind_eq_ok_iff]
  simp only [queryOf_eq_ok_iff, checkQuery_eq_ok_iff]

end BankQuery.Guard
