import BankQuery.Proofs.Guard.Nesting

/-!
# The frame of a plain selection

The parts of a tree that are no expressions are its frame. Where no query stands inside an
expression, the frame of an expression is empty, and that of a selection from tables holds its
relations and joins only: `Query.frame_eq` lists it. What a statement says outside its expressions
is looked for there.
-/

namespace BankQuery.Sql

/-- Whether a query stands in an expression itself. -/
def Expr.holdsQuery (e : Expr) : Bool := e.isSubquery || e.isArrayOf

def Part.isExpr (p : Part) : Bool := p.expr?.isSome

def frameOf (ps : List Part) : List Part := ps.filter (!·.isExpr)

@[simp] theorem frameOf_nil : frameOf [] = [] := rfl

@[simp] theorem frameOf_append (ps qs : List Part) :
    frameOf (ps ++ qs) = frameOf ps ++ frameOf qs :=
  List.filter_append ps qs

@[simp] theorem frameOf_cons_expr (e : Expr) (ps : List Part) :
    frameOf (.expr e :: ps) = frameOf ps := rfl

@[simp] theorem frameOf_cons_body (b : Body) (ps : List Part) :
    frameOf (.body b :: ps) = .body b :: frameOf ps := rfl

@[simp] theorem frameOf_cons_relation (r : Relation) (ps : List Part) :
    frameOf (.relation r :: ps) = .relation r :: frameOf ps := rfl

@[simp] theorem frameOf_cons_join (j : Join) (ps : List Part) :
    frameOf (.join j :: ps) = .join j :: frameOf ps := rfl

/-- What says nothing about expressions may be looked for in the frame. -/
theorem flatMap_eq_flatMap_frameOf {α : Type} {f : Part → List α} (hf : ∀ e, f (.expr e) = [])
    (ps : List Part) : ps.flatMap f = (frameOf ps).flatMap f := by
  induction ps with
  | nil => rfl
  | cons p ps ih => cases p <;> simp [hf, ih]

/-- What the frame says nothing about may be looked for in the expressions. -/
theorem flatMap_eq_flatMap_exprs {α : Type} {f : Part → List α} {ps : List Part}
    (hf : ∀ p ∈ frameOf ps, f p = []) :
    ps.flatMap f = (ps.filterMap Part.expr?).flatMap fun e => f (.expr e) := by
  induction ps with
  | nil => rfl
  | cons p ps ih =>
    cases p with
    | expr e =>
      rw [List.flatMap_cons, ih hf]
      rfl
    | _ =>
      obtain ⟨hp, hps⟩ := List.forall_mem_cons.mp hf
      rw [List.flatMap_cons, hp, List.nil_append, ih hps]
      rfl

mutual

theorem Expr.frameOf_parts : ∀ e : Expr, (∀ x ∈ e.all, x.holdsQuery = false) → frameOf e.parts = []
  | .column _, _ | .path _, _ | .placeholder _, _ | .literal _, _ | .typed _ _, _ | .star _, _ => by
    rw [Expr.parts, frameOf_nil]
  | .interval value _, h => by
    rw [Expr.all, Expr.inside] at h
    rw [Expr.parts, frameOf_cons_expr, Expr.frameOf_parts value (List.forall_mem_cons.mp h).2]
  | .binary _ left right, h => by
    rw [Expr.all, Expr.inside] at h
    obtain ⟨hl, hr⟩ := List.forall_mem_append.mp (List.forall_mem_cons.mp h).2
    rw [Expr.parts, frameOf_append, frameOf_cons_expr, frameOf_cons_expr,
      Expr.frameOf_parts left hl, Expr.frameOf_parts right hr, List.append_nil]
  | .between _ value low high, h => by
    rw [Expr.all, Expr.inside] at h
    obtain ⟨h, hh⟩ := List.forall_mem_append.mp (List.forall_mem_cons.mp h).2
    obtain ⟨hv, hl⟩ := List.forall_mem_append.mp h
    rw [Expr.parts, frameOf_append, frameOf_append, frameOf_cons_expr, frameOf_cons_expr,
      frameOf_cons_expr, Expr.frameOf_parts value hv, Expr.frameOf_parts low hl,
      Expr.frameOf_parts high hh, List.append_nil, List.append_nil]
  | .nested inner, h => by
    rw [Expr.all, Expr.inside] at h
    rw [Expr.parts, frameOf_cons_expr, Expr.frameOf_parts inner (List.forall_mem_cons.mp h).2]
  | .form _ operands, h => by
    rw [Expr.all, Expr.inside] at h
    rw [Expr.parts, Expr.frameOf_partsOf operands (List.forall_mem_cons.mp h).2]
  | .call _ _ operands, h => by
    rw [Expr.all, Expr.inside] at h
    rw [Expr.parts, Expr.frameOf_partsOf operands (List.forall_mem_cons.mp h).2]
  | .subquery _, h | .inSubquery _ _ _, h | .exists _ _, h | .arrayOf _, h =>
    absurd (h _ List.mem_cons_self) (by simp [Expr.holdsQuery, Expr.isSubquery, Expr.isArrayOf])

theorem Expr.frameOf_partsOf : ∀ es : List Expr, (∀ x ∈ Expr.allOf es, x.holdsQuery = false) →
    frameOf (Expr.partsOf es) = []
  | [], _ => by rw [Expr.partsOf, frameOf_nil]
  | e :: es, h => by
    rw [Expr.allOf] at h
    obtain ⟨he, hes⟩ := List.forall_mem_append.mp h
    rw [Expr.partsOf, frameOf_append, frameOf_cons_expr, Expr.frameOf_parts e he,
      Expr.frameOf_partsOf es hes, List.append_nil]

end

theorem Expr.frameOf_partsOfOption (e : Option Expr)
    (h : ∀ x ∈ Expr.allOfOption e, x.holdsQuery = false) :
    frameOf (Expr.partsOfOption e) = [] := by
  cases e with
  | none => rw [Expr.partsOfOption, frameOf_nil]
  | some e =>
    rw [Expr.allOfOption] at h
    rw [Expr.partsOfOption, frameOf_cons_expr, Expr.frameOf_parts e h]

theorem Relation.frameOf_parts {r : Relation} (ht : r.isTable = true)
    (h : ∀ x ∈ r.expressions, x.holdsQuery = false) : frameOf r.parts = [] := by
  cases r with
  | table _ _ operands _ hints =>
    rw [Relation.expressions] at h
    obtain ⟨ho, hh⟩ := List.forall_mem_append.mp h
    rw [Relation.parts, frameOf_append, Expr.frameOf_partsOf operands ho,
      Expr.frameOf_partsOf hints hh, List.append_nil]
  | _ => cases ht

def Join.frame (j : Join) : List Part := [.join j, .relation j.relation]

theorem Join.frameOf_partsOf {js : List Join} (ht : ∀ j ∈ js, j.relation.isTable = true)
    (h : ∀ x ∈ Join.expressions js, x.holdsQuery = false) :
    frameOf (Join.partsOf js) = js.flatMap Join.frame := by
  induction js with
  | nil => rw [Join.partsOf, frameOf_nil, List.flatMap_nil]
  | cons j rest ih =>
    obtain ⟨relation, kind, rule, condition⟩ := j
    obtain ⟨hj, ht⟩ := List.forall_mem_cons.mp ht
    rw [Join.expressions] at h
    obtain ⟨h, hrest⟩ := List.forall_mem_append.mp h
    obtain ⟨hr, hc⟩ := List.forall_mem_append.mp h
    rw [Join.partsOf, List.flatMap_cons, frameOf_append, frameOf_append, frameOf_cons_join,
      frameOf_cons_relation, Relation.frameOf_parts hj hr, Expr.frameOf_partsOfOption condition hc,
      ih ht hrest]
    rfl

def Source.frame (s : Source) : List Part := .relation s.relation :: s.joins.flatMap Join.frame

theorem Source.frameOf_partsOf {ss : List Source}
    (ht : ∀ r ∈ ss.flatMap fun s => s.relation :: s.joins.map Join.relation, r.isTable = true)
    (h : ∀ x ∈ Source.expressionsOf ss, x.holdsQuery = false) :
    frameOf (Source.partsOf ss) = ss.flatMap Source.frame := by
  induction ss with
  | nil => rw [Source.partsOf, frameOf_nil, List.flatMap_nil]
  | cons s rest ih =>
    obtain ⟨relation, joins⟩ := s
    rw [List.flatMap_cons] at ht
    obtain ⟨hs, ht⟩ := List.forall_mem_append.mp ht
    obtain ⟨hs, hj⟩ := List.forall_mem_cons.mp hs
    rw [Source.expressionsOf, Source.expressions] at h
    obtain ⟨h, hrest⟩ := List.forall_mem_append.mp h
    obtain ⟨hr, hjs⟩ := List.forall_mem_append.mp h
    rw [Source.partsOf, Source.parts, List.flatMap_cons, frameOf_append, frameOf_append,
      frameOf_cons_relation, Relation.frameOf_parts hs hr,
      Join.frameOf_partsOf (List.forall_mem_map.mp hj) hjs, ih ht hrest]
    rfl

theorem Select.frameOf_parts {s : Select} (ht : ∀ r ∈ Guard.relationsOf s, r.isTable = true)
    (h : ∀ x ∈ s.expressions, x.holdsQuery = false) :
    frameOf s.parts = s.sources.flatMap Source.frame := by
  cases s
  rw [Select.expressions] at h
  simp only [List.forall_mem_append] at h
  obtain ⟨⟨⟨⟨⟨⟨⟨⟨⟨⟨⟨⟨hd, htop⟩, hi⟩, hs⟩, hv⟩, hc⟩, hg⟩, hcl⟩, hdi⟩, hso⟩, hh⟩, hw⟩, hq⟩ := h
  rw [Select.parts]
  simp only [frameOf_append, Expr.frameOf_partsOf _ hd, Expr.frameOf_partsOfOption _ htop,
    Expr.frameOf_partsOf _ hi, Source.frameOf_partsOf ht hs, Expr.frameOf_partsOf _ hv,
    Expr.frameOf_partsOfOption _ hc, Expr.frameOf_partsOf _ hg, Expr.frameOf_partsOf _ hcl,
    Expr.frameOf_partsOf _ hdi, Expr.frameOf_partsOf _ hso, Expr.frameOf_partsOfOption _ hh,
    Expr.frameOf_partsOf _ hw, Expr.frameOf_partsOfOption _ hq, List.nil_append, List.append_nil]

def Query.select? (q : Query) : Option Select :=
  match q.body with
  | .select s => some s
  | _ => none

/-- Outside its expressions, a plain selection from tables is made of its body, its relations and
its joins. -/
theorem Query.frame_eq {q : Query} {s : Select} (hw : q.ctes = []) (hb : q.body = .select s)
    (ht : ∀ r ∈ Guard.relationsOf s, r.isTable = true)
    (h : ∀ x ∈ q.expressions, x.holdsQuery = false) :
    frameOf q.parts = .body (.select s) :: s.sources.flatMap Source.frame := by
  cases q with
  | mk recursive ctes body orderBy orders limit offset offsetRows fetch fetchStyle locks =>
    obtain rfl : ctes = [] := hw
    obtain rfl : body = .select s := hb
    rw [Query.expressions, Cte.expressions, List.nil_append, Body.expressions] at h
    simp only [List.forall_mem_append] at h
    obtain ⟨⟨⟨⟨hs, ho⟩, hl⟩, hf⟩, hfe⟩ := h
    rw [Query.parts, Cte.parts, List.nil_append, Body.parts]
    simp only [List.cons_append, frameOf_cons_body, frameOf_append, Select.frameOf_parts ht hs,
      Expr.frameOf_partsOf _ ho, Expr.frameOf_partsOfOption _ hl, Expr.frameOf_partsOfOption _ hf,
      Expr.frameOf_partsOfOption _ hfe, List.append_nil]

end BankQuery.Sql

namespace BankQuery.Guard

open Sql

variable {schema : Schema} {c : Candidate} {query : Query} {select : Select} {primary : Table}
  {others : List Table}

theorem Passes.frame_eq (h : Passes schema c query select primary others)
    (ha : ∀ e ∈ query.expressions, e.isArrayOf = false) :
    frameOf query.parts = .body (.select select) :: select.sources.flatMap Source.frame := by
  refine Query.frame_eq h.ctes h.body h.isTable fun e he => ?_
  rw [Expr.holdsQuery, isSubquery_of_checkExpr (h.exprs e he), ha e he, Bool.or_false]

theorem Passes.isTable_of_mem_sources (h : Passes schema c query select primary others)
    {s : Source} (hs : s ∈ select.sources) :
    s.relation.isTable = true ∧ ∀ j ∈ s.joins, j.relation.isTable = true := by
  have ht : ∀ r ∈ s.relation :: s.joins.map Join.relation, r.isTable = true :=
    fun r hr => h.isTable r (List.mem_flatMap.mpr ⟨s, hs, hr⟩)
  obtain ⟨hr, hj⟩ := List.forall_mem_cons.mp ht
  exact ⟨hr, List.forall_mem_map.mp hj⟩

/-- All relations in the frame are tables. -/
theorem Passes.isTable_of_mem_frame (h : Passes schema c query select primary others)
    (ha : ∀ e ∈ query.expressions, e.isArrayOf = false) {r : Relation}
    (hr : .relation r ∈ frameOf query.parts) : r.isTable = true := by
  rw [h.frame_eq ha, List.mem_cons] at hr
  obtain hr | hr := hr
  · cases hr
  · obtain ⟨s, hs, hr⟩ := List.mem_flatMap.mp hr
    obtain ⟨hrelation, hjoins⟩ := h.isTable_of_mem_sources hs
    rcases List.mem_cons.mp hr with hr | hr
    · cases hr
      exact hrelation
    · obtain ⟨j, hj, hr⟩ := List.mem_flatMap.mp hr
      simp only [Join.frame, List.mem_cons, List.not_mem_nil, or_false, reduceCtorEq, false_or,
        Part.relation.injEq] at hr
      exact hr ▸ hjoins j hj

/-- What neither the frame of a query nor a table that is read holds is held by expressions. -/
theorem Passes.flatMap_parts_eq {α : Type} {f : Part → List α}
    (h : Passes schema c query select primary others)
    (ha : ∀ e ∈ query.expressions, e.isArrayOf = false) (hbody : ∀ b, f (.body b) = [])
    (hjoin : ∀ j, f (.join j) = []) (htable : ∀ r, r.isTable = true → f (.relation r) = []) :
    query.parts.flatMap f = query.expressions.flatMap fun e => f (.expr e) := by
  rw [Query.expressions_eq]
  refine flatMap_eq_flatMap_exprs fun p hp => ?_
  cases p with
  | expr e => exact absurd (List.mem_filter.mp hp).2 (by simp [Part.isExpr, Part.expr?])
  | relation r => exact htable r (h.isTable_of_mem_frame ha hp)
  | body b => exact hbody b
  | join j => exact hjoin j

def candidateOf (statement : String) : Candidate := { plainCandidate with statement := statement }

def sharingStatement : String :=
  "SELECT monthly_kpis.imor FROM monthly_kpis JOIN segment_kpis USING (Bank_Id) " ++
    "WHERE monthly_kpis.period = $1"

theorem check_sharing : check Registry.standard.schema (candidateOf sharingStatement) = .ok () :=
  eq_ok_of_isOk (by decide +kernel)

end BankQuery.Guard
