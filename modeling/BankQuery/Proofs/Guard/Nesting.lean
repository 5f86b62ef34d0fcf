import BankQuery.Proofs.Guard.Steps
import BankQuery.Proofs.Sql.Parts
import BankQuery.Registry.Standard

/-!
# Queries inside a statement that is let through

A statement that is let through is one selection, and every relation of that selection is a known
table. Subqueries of all kinds are turned away but one: the members of an array may come from a
query. `check_bodies` says that such an array is the only way for another query to be there, and
that without one the known tables are all that the statement reads.
-/

namespace BankQuery.Sql

/-- Whether an expression is one of the subqueries that the guard turns away. -/
def Expr.isSubquery : Expr → Bool
  | .subquery _ | .inSubquery _ _ _ | .exists _ _ => true
  | _ => false

def Expr.isArrayOf : Expr → Bool
  | .arrayOf _ => true
  | _ => false

/-- The parts `ps` have the expressions `es` and no body, and the relations `rs` only, unless one of
the expressions is an array of rows. -/
structure Flat (es : List Expr) (rs : List Relation) (ps : List Part) : Prop where
  bodies : ps.filterMap Part.body? = [] ↔ ∀ e ∈ es, e.isArrayOf = false
  relations : (∀ e ∈ es, e.isArrayOf = false) → ps.filterMap Part.relation? = rs

namespace Flat

theorem nil : Flat [] [] [] := ⟨by simp, by simp⟩

theorem append {es es' : List Expr} {rs rs' : List Relation} {ps ps' : List Part}
    (h : Flat es rs ps) (h' : Flat es' rs' ps') : Flat (es ++ es') (rs ++ rs') (ps ++ ps') where
  bodies := by
    rw [List.filterMap_append, List.append_eq_nil_iff, h.bodies, h'.bodies]
    simp only [List.mem_append, or_imp, forall_and]
  relations ha := by
    simp only [List.mem_append, or_imp, forall_and] at ha
    rw [List.filterMap_append, h.relations ha.1, h'.relations ha.2]

theorem cons_expr {es : List Expr} {rs : List Relation} {ps : List Part} {e : Expr}
    (he : e.isArrayOf = false) (h : Flat es rs ps) : Flat (e :: es) rs (.expr e :: ps) where
  bodies := by simpa [List.filterMap_cons, Part.body?, he] using h.bodies
  relations ha := by
    simp only [List.mem_cons, forall_eq_or_imp] at ha
    simpa [List.filterMap_cons, Part.relation?] using h.relations ha.2

theorem cons_relation {es : List Expr} {rs : List Relation} {ps : List Part} (r : Relation)
    (h : Flat es rs ps) : Flat es (r :: rs) (.relation r :: ps) where
  bodies := by simpa [List.filterMap_cons, Part.body?] using h.bodies
  relations ha := by simpa [List.filterMap_cons, Part.relation?] using h.relations ha

theorem cons_join {es : List Expr} {rs : List Relation} {ps : List Part} (j : Join)
    (h : Flat es rs ps) : Flat es rs (.join j :: ps) where
  bodies := by simpa [List.filterMap_cons, Part.body?] using h.bodies
  relations ha := by simpa [List.filterMap_cons, Part.relation?] using h.relations ha

/-- An array of rows has a body inside it, whatever else its query holds. -/
theorem arrayOf (q : Query) : Flat (Expr.arrayOf q).all [] (.expr (.arrayOf q) :: q.parts) where
  bodies := by
    have hb : q.body ∈ q.parts.filterMap Part.body? := by
      cases q with
      | mk _ _ body => exact List.mem_filterMap.mpr ⟨.body body, by simp [Query.parts], rfl⟩
    refine ⟨fun h => ?_, fun h => absurd (h _ List.mem_cons_self) (by simp [Expr.isArrayOf])⟩
    change q.parts.filterMap Part.body? = [] at h
    rw [h] at hb
    cases hb
  relations h := absurd (h _ List.mem_cons_self) (by simp [Expr.isArrayOf])

end Flat

mutual

theorem Expr.flat : ∀ e : Expr, (∀ x ∈ e.all, x.isSubquery = false) →
    Flat e.all [] (.expr e :: e.parts)
  | .column _, _ | .path _, _ | .placeholder _, _ | .literal _, _ | .typed _ _, _ | .star _, _ => by
    simpa [Expr.all, Expr.inside, Expr.parts] using Flat.nil.cons_expr (by rfl)
  | .interval value _, h => by
    rw [Expr.all, Expr.inside] at h ⊢
    rw [Expr.parts]
    exact (Expr.flat value (List.forall_mem_cons.mp h).2).cons_expr rfl
  | .binary _ left right, h => by
    rw [Expr.all, Expr.inside] at h ⊢
    obtain ⟨hl, hr⟩ := List.forall_mem_append.mp (List.forall_mem_cons.mp h).2
    rw [Expr.parts]
    exact ((Expr.flat left hl).append (Expr.flat right hr)).cons_expr rfl
  | .between _ value low high, h => by
    rw [Expr.all, Expr.inside] at h ⊢
    obtain ⟨h, hh⟩ := List.forall_mem_append.mp (List.forall_mem_cons.mp h).2
    obtain ⟨hv, hl⟩ := List.forall_mem_append.mp h
    rw [Expr.parts]
    exact (((Expr.flat value hv).append (Expr.flat low hl)).append (Expr.flat high hh)).cons_expr rfl
  | .nested inner, h => by
    rw [Expr.all, Expr.inside] at h ⊢
    rw [Expr.parts]
    exact (Expr.flat inner (List.forall_mem_cons.mp h).2).cons_expr rfl
  | .form _ operands, h => by
    rw [Expr.all, Expr.inside] at h ⊢
    rw [Expr.parts]
    exact (Expr.flatOf operands (List.forall_mem_cons.mp h).2).cons_expr rfl
  | .call _ _ operands, h => by
    rw [Expr.all, Expr.inside] at h ⊢
    rw [Expr.parts]
    exact (Expr.flatOf operands (List.forall_mem_cons.mp h).2).cons_expr rfl
  | .subquery _, h | .inSubquery _ _ _, h | .exists _ _, h =>
    absurd (h _ List.mem_cons_self) (by simp [Expr.isSubquery])
  | .arrayOf query, _ => by
    rw [Expr.parts]
    exact Flat.arrayOf query

theorem Expr.flatOf : ∀ es : List Expr, (∀ x ∈ Expr.allOf es, x.isSubquery = false) →
    Flat (Expr.allOf es) [] (Expr.partsOf es)
  | [], _ => by
    rw [Expr.allOf, Expr.partsOf]
    exact Flat.nil
  | e :: es, h => by
    rw [Expr.allOf] at h ⊢
    obtain ⟨he, hes⟩ := List.forall_mem_append.mp h
    rw [Expr.partsOf]
    exact (Expr.flat e he).append (Expr.flatOf es hes)

end

theorem Expr.flatOfOption (e : Option Expr) (h : ∀ x ∈ Expr.allOfOption e, x.isSubquery = false) :
    Flat (Expr.allOfOption e) [] (Expr.partsOfOption e) := by
  cases e with
  | none =>
    rw [Expr.allOfOption, Expr.partsOfOption]
    exact Flat.nil
  | some e =>
    rw [Expr.allOfOption] at h ⊢
    exact Expr.flat e h

def Relation.isTable : Relation → Bool
  | .table _ _ _ _ _ => true
  | _ => false

theorem Relation.flat {r : Relation} (ht : r.isTable = true)
    (h : ∀ x ∈ r.expressions, x.isSubquery = false) : Flat r.expressions [] r.parts := by
  cases r with
  | table _ _ operands _ hints =>
    rw [Relation.expressions] at h ⊢
    obtain ⟨ho, hh⟩ := List.forall_mem_append.mp h
    rw [Relation.parts]
    exact (Expr.flatOf operands ho).append (Expr.flatOf hints hh)
  | _ => cases ht

theorem Join.flat {js : List Join} (ht : ∀ j ∈ js, j.relation.isTable = true)
    (h : ∀ x ∈ Join.expressions js, x.isSubquery = false) :
    Flat (Join.expressions js) (js.map Join.relation) (Join.partsOf js) := by
  induction js with
  | nil =>
    rw [Join.expressions, Join.partsOf]
    exact Flat.nil
  | cons j rest ih =>
    obtain ⟨relation, kind, rule, condition⟩ := j
    obtain ⟨hj, ht⟩ := List.forall_mem_cons.mp ht
    rw [Join.expressions] at h ⊢
    obtain ⟨h, hrest⟩ := List.forall_mem_append.mp h
    obtain ⟨hr, hc⟩ := List.forall_mem_append.mp h
    have hflat := ((Relation.flat hj hr).append (Expr.flatOfOption condition hc)).append
      (ih ht hrest)
    rw [Join.partsOf]
    exact (hflat.cons_relation relation).cons_join ⟨relation, kind, rule, condition⟩

theorem Source.flatOf {ss : List Source}
    (ht : ∀ r ∈ ss.flatMap fun s => s.relation :: s.joins.map Join.relation, r.isTable = true)
    (h : ∀ x ∈ Source.expressionsOf ss, x.isSubquery = false) :
    Flat (Source.expressionsOf ss) (ss.flatMap fun s => s.relation :: s.joins.map Join.relation)
      (Source.partsOf ss) := by
  induction ss with
  | nil =>
    rw [Source.expressionsOf, Source.partsOf]
    exact Flat.nil
  | cons s rest ih =>
    obtain ⟨relation, joins⟩ := s
    rw [List.flatMap_cons] at ht ⊢
    obtain ⟨hs, ht⟩ := List.forall_mem_append.mp ht
    obtain ⟨hs, hj⟩ := List.forall_mem_cons.mp hs
    rw [Source.expressionsOf, Source.expressions] at h ⊢
    obtain ⟨h, hrest⟩ := List.forall_mem_append.mp h
    obtain ⟨hr, hjs⟩ := List.forall_mem_append.mp h
    have hflat := (Relation.flat hs hr).append (Join.flat (List.forall_mem_map.mp hj) hjs)
    rw [Source.partsOf, Source.parts]
    exact (hflat.cons_relation relation).append (ih ht hrest)

theorem Select.flat {s : Select} (ht : ∀ r ∈ Guard.relationsOf s, r.isTable = true)
    (h : ∀ x ∈ s.expressions, x.isSubquery = false) :
    Flat s.expressions (Guard.relationsOf s) s.parts := by
  cases s
  rw [Select.expressions] at h ⊢
  simp only [List.forall_mem_append] at h
  obtain ⟨⟨⟨⟨⟨⟨⟨⟨⟨⟨⟨⟨hd, htop⟩, hi⟩, hs⟩, hv⟩, hc⟩, hg⟩, hcl⟩, hdi⟩, hso⟩, hh⟩, hw⟩, hq⟩ := h
  rw [Select.parts]
  have hitems := ((Expr.flatOf _ hd).append (Expr.flatOfOption _ htop)).append (Expr.flatOf _ hi)
  have hfrom := ((hitems.append (Source.flatOf ht hs)).append (Expr.flatOf _ hv)).append
    (Expr.flatOfOption _ hc)
  have hsorted := (((hfrom.append (Expr.flatOf _ hg)).append (Expr.flatOf _ hcl)).append
    (Expr.flatOf _ hdi)).append (Expr.flatOf _ hso)
  have hall := ((hsorted.append (Expr.flatOfOption _ hh)).append (Expr.flatOf _ hw)).append
    (Expr.flatOfOption _ hq)
  simpa only [Guard.relationsOf, List.nil_append, List.append_nil] using hall

/-- A query with no named queries and a selection from tables as its body is that body and parts
without another one. -/
theorem Query.flat {q : Query} {s : Select} (hw : q.ctes = []) (hb : q.body = .select s)
    (ht : ∀ r ∈ Guard.relationsOf s, r.isTable = true)
    (h : ∀ x ∈ q.expressions, x.isSubquery = false) :
    ∃ ps, q.parts = .body q.body :: ps ∧ Flat q.expressions (Guard.relationsOf s) ps := by
  cases q with
  | mk recursive ctes body orderBy orders limit offset offsetRows fetch fetchStyle locks =>
    obtain rfl : ctes = [] := hw
    obtain rfl : body = .select s := hb
    rw [Query.expressions, Cte.expressions, List.nil_append, Body.expressions] at h ⊢
    simp only [List.forall_mem_append] at h
    obtain ⟨⟨⟨⟨hs, ho⟩, hl⟩, hf⟩, hfe⟩ := h
    have hall := ((((Select.flat ht hs).append (Expr.flatOf _ ho)).append
      (Expr.flatOfOption _ hl)).append (Expr.flatOfOption _ hf)).append (Expr.flatOfOption _ hfe)
    refine ⟨_, ?_, by simpa only [List.append_nil] using hall⟩
    rw [Query.parts, Cte.parts, List.nil_append, Body.parts]
    simp only [List.cons_append]

end BankQuery.Sql

namespace BankQuery.Guard

open Sql

variable {schema : Schema} {c : Candidate} {query : Query} {select : Select} {primary : Table}
  {others : List Table}

theorem isSubquery_of_checkExpr {tables : List Table} {e : Expr}
    (h : checkExpr tables e = .ok ()) : e.isSubquery = false := by
  cases e with
  | subquery _ | inSubquery _ _ _ | «exists» _ _ => simp [checkExpr] at h
  | _ => rfl

theorem Passes.isTable (h : Passes schema c query select primary others) :
    ∀ r ∈ relationsOf select, r.isTable = true := by
  intro r hr
  obtain ⟨table, -, ht⟩ := exists_of_mapM_eq_ok h.tables r hr
  obtain ⟨_, _, _, _, _, rfl, -⟩ := tableOf_eq_ok_iff.mp ht
  rfl

theorem Passes.flat (h : Passes schema c query select primary others) :
    ∃ ps, query.parts = .body query.body :: ps ∧ Flat query.expressions (relationsOf select) ps :=
  Query.flat h.ctes h.body h.isTable fun e he => isSubquery_of_checkExpr (h.exprs e he)

theorem Passes.relations_eq (h : Passes schema c query select primary others)
    (ha : ∀ e ∈ query.expressions, e.isArrayOf = false) : query.relations = relationsOf select := by
  obtain ⟨ps, hps, hflat⟩ := h.flat
  rw [← hflat.relations ha, Query.relations, hps, List.filterMap_cons]
  simp [Part.relation?]

/-- A statement that is let through is one query whose body is a selection from known tables. No
other query stands in it if and only if none of its expressions is an array of rows, and then the
known tables are all that it reads. -/
theorem check_bodies (schema : Schema) (c : Candidate) (h : check schema c = .ok ()) :
    ∃ query select, statements? c.statement = some [some query] ∧
      query.ctes = [] ∧ query.body = .select select ∧
      (∀ r ∈ relationsOf select, ∃ table, tableOf schema r = .ok table ∧ table ∈ schema.tables) ∧
      (query.bodies = [.select select] ↔ ∀ e ∈ query.expressions, e.isArrayOf = false) ∧
      (query.bodies = [.select select] → query.relations = relationsOf select) := by
  obtain ⟨-, -, query, hq, select, primary, others, hp⟩ := check_eq_ok_iff.mp h
  obtain ⟨ps, hps, hflat⟩ := hp.flat
  have hbodies : query.bodies = [.select select] ↔ ∀ e ∈ query.expressions, e.isArrayOf = false := by
    rw [← hflat.bodies, Query.bodies, hps, hp.body, List.filterMap_cons]
    simp [Part.body?]
  refine ⟨query, select, hq, hp.ctes, hp.body, fun r hr => ?_, hbodies, fun hb =>
    hp.relations_eq (hbodies.mp hb)⟩
  obtain ⟨table, -, ht⟩ := exists_of_mapM_eq_ok hp.tables r hr
  obtain ⟨_, _, _, _, _, -, hs⟩ := tableOf_eq_ok_iff.mp ht
  exact ⟨table, ht, List.mem_of_find?_eq_some hs⟩

def plainCandidate : Candidate where
  statement := "SELECT AVG(imor) FROM monthly_kpis WHERE period = $1"
  parameters := [⟨"$1", .text "2024-01-01"⟩]
  tables := ["monthly_kpis"]
  columns := ["imor", "period"]
  mode := .single
  topN := none
  attempt := 1

theorem check_plain : check Registry.standard.schema plainCandidate = .ok () :=
  eq_ok_of_isOk (by decide +kernel)

theorem check_bodies_plain : check Registry.standard.schema plainCandidate = .ok () ∧
    ∃ query select, statements? plainCandidate.statement = some [some query] ∧
      query.ctes = [] ∧ query.body = .select select ∧
      (∀ r ∈ relationsOf select, ∃ table, tableOf Registry.standard.schema r = .ok table ∧
        table ∈ Registry.standard.schema.tables) ∧
      (query.bodies = [.select select] ↔ ∀ e ∈ query.expressions, e.isArrayOf = false) ∧
      (query.bodies = [.select select] → query.relations = relationsOf select) :=
  ⟨check_plain, check_bodies Registry.standard.schema plainCandidate check_plain⟩

def arrayCandidate : Candidate where
  statement := "SELECT ARRAY(SELECT imor FROM salaries) FROM monthly_kpis WHERE period = $1"
  parameters := [⟨"$1", .text "x"⟩]
  tables := ["monthly_kpis"]
  columns := []
  mode := .single
  topN := none
  attempt := 1

/-- A statement that is let through may hold a query inside its selection and read a table that is
not known. -/
theorem check_reads_unknown_table : ¬ ∀ (schema : Schema) (c : Candidate),
    check schema c = .ok () → ∃ query select, statements? c.statement = some [some query] ∧
      query.bodies = [.select select] ∧ query.relations = relationsOf select ∧
      ∀ r ∈ query.relations, (tableOf schema r).isOk = true := by
  intro hall
  have hc : check Registry.standard.schema arrayCandidate = .ok () :=
    eq_ok_of_isOk (by decide +kernel)
  have hunknown : (queryOf arrayCandidate.statement).toOption.map (fun query =>
      query.relations.all fun r => (tableOf Registry.standard.schema r).isOk) = some false := by
    decide +kernel
  obtain ⟨query, select, hs, -, -, hk⟩ := hall _ _ hc
  have hknown := List.all_eq_true.mpr hk
  rw [eq_of_queryOf hs hunknown] at hknown
  cases hknown

end BankQuery.Guard
