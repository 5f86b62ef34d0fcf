import BankQuery.Candidate.Generation
import BankQuery.Proofs.Guard.Constants

/-!
# Placeholders of a statement that is let through

A statement is run with its parameters bound in the order in which they are listed, whatever they
are called. The guard compares names: the placeholders that are expressions are the names of the
parameters, and no parameter is named twice. `check_parameters` says when this is enough. Every
placeholder gets the value listed under its name if and only if each parameter stands at the place
of its number, and no other placeholder is held by a form, as one may be by the format of a cast.
-/

namespace BankQuery

namespace Sql

def Value.placeholder? : Value → Option String
  | .placeholder name => some name
  | .literal _ => none

def Expr.heldValues : Expr → List Value
  | .form (.cast _ _ _ format) _ => format.toList.flatMap CastFormat.values
  | _ => []

def Part.heldValues : Part → List Value
  | .expr e => e.heldValues
  | .relation r => r.turnedValues
  | _ => []

/-- The placeholders in a query that are no expressions. -/
def Query.heldPlaceholders (q : Query) : List String :=
  (q.parts.flatMap Part.heldValues).filterMap Value.placeholder?

def Query.placeholders (q : Query) : List String :=
  q.expressions.filterMap Guard.placeholder? ++ q.heldPlaceholders

end Sql

/-- The place that a placeholder asks for: the number behind its dollar sign. -/
def placeOf? (name : String) : Option Nat :=
  match name.toList with
  | '$' :: digits =>
    if digits.isEmpty || digits.any (!·.isDigit) then none else some (Nat.ofDigitChars 10 digits 0)
  | _ => none

theorem placeOf?_placeholder (n : Nat) : placeOf? (Generation.placeholder n) = some n := by
  have hl : (Generation.placeholder n).toList = '$' :: Nat.toDigits 10 n := by
    rw [Generation.placeholder, String.toList_append, Nat.toList_repr]
    rfl
  have hdigits : ((Nat.toDigits 10 n).isEmpty || (Nat.toDigits 10 n).any (!·.isDigit)) = false := by
    rw [Bool.or_eq_false_iff, List.isEmpty_eq_false_iff, List.any_eq_false]
    refine ⟨Nat.toDigits_ne_nil, fun d hd => ?_⟩
    rw [Nat.isDigit_of_mem_toDigits (by decide) (by decide) hd]
    exact Bool.false_ne_true
  simp only [placeOf?, hl, hdigits, Bool.false_eq_true, if_false, Nat.ofDigitChars_ten_toDigits]

namespace Candidate

def names (c : Candidate) : List String := c.parameters.map Parameter.name

/-- The parameter that a placeholder is given where they are bound in their order. -/
def atPlace? (c : Candidate) (name : String) : Option Parameter :=
  match placeOf? name with
  | some (n + 1) => c.parameters[n]?
  | _ => none

/-- The parameters are called `$1`, `$2` and so on. -/
def IsNumbered (c : Candidate) : Prop :=
  ∀ i p, c.parameters[i]? = some p → p.name = Generation.placeholder (i + 1)

def IsOrdered (c : Candidate) : Prop :=
  ∀ i p, c.parameters[i]? = some p → placeOf? p.name = some (i + 1)

theorem IsNumbered.isOrdered {c : Candidate} (h : c.IsNumbered) : c.IsOrdered := by
  intro i p hp
  rw [h i p hp, placeOf?_placeholder]

theorem atPlace?_eq {c : Candidate} {name : String} {i : Nat} (h : placeOf? name = some (i + 1)) :
    c.atPlace? name = c.parameters[i]? := by
  unfold atPlace?
  rw [h]

theorem atPlace?_eq_some {c : Candidate} {name : String} {p : Parameter}
    (h : c.atPlace? name = some p) :
    ∃ i, placeOf? name = some (i + 1) ∧ c.parameters[i]? = some p := by
  unfold atPlace? at h
  split at h
  · exact ⟨_, ‹_›, h⟩
  · cases h

/-- Bound in their order, the parameters give each placeholder the value that is listed under its
name. -/
def BindsNames (c : Candidate) (q : Sql.Query) : Prop :=
  ∀ name ∈ q.placeholders, ∃ p ∈ c.parameters, p.name = name ∧ c.atPlace? name = some p

/-- The parameters are safe to bind in their order. -/
structure BindsByPlace (c : Candidate) (q : Sql.Query) : Prop where
  numbered : c.IsNumbered
  places : ∀ name, name ∈ q.placeholders ↔
    ∃ i < c.parameters.length, name = Generation.placeholder (i + 1)
  values : c.BindsNames q

theorem IsNumbered.mem_names_iff {c : Candidate} (h : c.IsNumbered) {name : String} :
    name ∈ c.names ↔ ∃ i < c.parameters.length, name = Generation.placeholder (i + 1) := by
  rw [names, List.mem_map]
  constructor
  · rintro ⟨p, hp, rfl⟩
    obtain ⟨i, hi⟩ := List.mem_iff_getElem?.mp hp
    exact ⟨i, (List.getElem?_eq_some_iff.mp hi).1, h i p hi⟩
  · rintro ⟨i, hi, rfl⟩
    exact ⟨c.parameters[i], List.getElem_mem hi, h i _ (List.getElem?_eq_getElem hi)⟩

section Bound

-- What the guard asks of the placeholders.
variable {c : Candidate} {q : Sql.Query} (hn : c.names.Nodup)
  (hu : ∀ name, name ∈ q.expressions.filterMap Guard.placeholder? ↔ name ∈ c.names)

include hu

theorem mem_placeholders_iff (hheld : ∀ name ∈ q.heldPlaceholders, name ∈ c.names) {name : String} :
    name ∈ q.placeholders ↔ name ∈ c.names := by
  rw [Sql.Query.placeholders, List.mem_append, hu]
  exact ⟨fun h => h.elim id (hheld name), .inl⟩

include hn

theorem bindsNames_iff : c.BindsNames q ↔
    c.IsOrdered ∧ ∀ name ∈ q.heldPlaceholders, name ∈ c.names := by
  constructor
  · intro h
    refine ⟨fun i p hp => ?_, fun name hm => ?_⟩
    · have hm : p.name ∈ c.names := List.mem_map_of_mem (List.mem_of_getElem? hp)
      obtain ⟨p', -, hname, hat⟩ := h p.name (List.mem_append_left _ ((hu p.name).mpr hm))
      obtain ⟨j, hj, hp'⟩ := atPlace?_eq_some hat
      have hnames : c.names[i]? = c.names[j]? := by
        rw [names, List.getElem?_map, List.getElem?_map, hp, hp', Option.map_some, Option.map_some,
          hname]
      have hi : i < c.names.length := by
        rw [names, List.length_map]
        exact (List.getElem?_eq_some_iff.mp hp).1
      rw [(List.getElem?_inj hi hn).mp hnames, hj]
    · obtain ⟨p, hp, rfl, -⟩ := h name (List.mem_append_right _ hm)
      exact List.mem_map_of_mem hp
  · rintro ⟨ho, hheld⟩ name hm
    obtain ⟨p, hp, rfl⟩ := List.mem_map.mp ((mem_placeholders_iff hu hheld).mp hm)
    obtain ⟨i, hi⟩ := List.mem_iff_getElem?.mp hp
    exact ⟨p, hp, rfl, (atPlace?_eq (ho i p hi)).trans hi⟩

theorem bindsByPlace_iff : c.BindsByPlace q ↔
    c.IsNumbered ∧ ∀ name ∈ q.heldPlaceholders, name ∈ c.names := by
  constructor
  · exact fun h => ⟨h.numbered, ((bindsNames_iff hn hu).mp h.values).2⟩
  · rintro ⟨hnum, hheld⟩
    refine ⟨hnum, fun name => ?_, (bindsNames_iff hn hu).mpr ⟨hnum.isOrdered, hheld⟩⟩
    rw [mem_placeholders_iff hu hheld, hnum.mem_names_iff]

end Bound

end Candidate

namespace Guard

open Sql

variable {schema : Schema} {c : Candidate} {query : Query} {select : Select} {primary : Table}
  {others : List Table}

theorem Passes.heldPlaceholders_eq (h : Passes schema c query select primary others)
    (ha : ∀ e ∈ query.expressions, e.isArrayOf = false) : query.heldPlaceholders =
      (query.expressions.flatMap Expr.heldValues).filterMap Value.placeholder? := by
  rw [Query.heldPlaceholders,
    h.flatMap_parts_eq ha (fun _ => rfl) (fun _ => rfl) fun _ => Relation.turnedValues_of_isTable]
  rfl

/-- The placeholders that are expressions of a statement that is let through are the names of its
parameters. So these are safe to bind in their order if and only if they are numbered in it and no
form holds a placeholder that they do not name; where no query stands inside the selection these
forms are expressions. -/
theorem check_parameters (schema : Schema) (c : Candidate) (h : check schema c = .ok ()) :
    ∃ query, statements? c.statement = some [some query] ∧ c.names.Nodup ∧
      (∀ name, name ∈ query.expressions.filterMap placeholder? ↔ name ∈ c.names) ∧
      (c.BindsByPlace query ↔ c.IsNumbered ∧ ∀ name ∈ query.heldPlaceholders, name ∈ c.names) ∧
      (c.BindsNames query ↔ c.IsOrdered ∧ ∀ name ∈ query.heldPlaceholders, name ∈ c.names) ∧
      ((∀ e ∈ query.expressions, e.isArrayOf = false) → query.heldPlaceholders =
        (query.expressions.flatMap Expr.heldValues).filterMap Value.placeholder?) := by
  obtain ⟨-, -, query, hq, select, primary, others, hp⟩ := check_eq_ok_iff.mp h
  obtain ⟨hn, hu⟩ := checkPlaceholders_eq_ok_iff.mp hp.placeholders
  exact ⟨query, hq, hn, hu, Candidate.bindsByPlace_iff hn hu, Candidate.bindsNames_iff hn hu,
    hp.heldPlaceholders_eq⟩

theorem check_parameters_sharing :
    check Registry.standard.schema (candidateOf sharingStatement) = .ok () ∧
    ∃ query, statements? sharingStatement = some [some query] ∧
      (candidateOf sharingStatement).names.Nodup ∧
      (∀ name, name ∈ query.expressions.filterMap placeholder? ↔
        name ∈ (candidateOf sharingStatement).names) ∧
      ((candidateOf sharingStatement).BindsByPlace query ↔
        (candidateOf sharingStatement).IsNumbered ∧
          ∀ name ∈ query.heldPlaceholders, name ∈ (candidateOf sharingStatement).names) ∧
      ((candidateOf sharingStatement).BindsNames query ↔
        (candidateOf sharingStatement).IsOrdered ∧
          ∀ name ∈ query.heldPlaceholders, name ∈ (candidateOf sharingStatement).names) ∧
      ((∀ e ∈ query.expressions, e.isArrayOf = false) → query.heldPlaceholders =
        (query.expressions.flatMap Expr.heldValues).filterMap Value.placeholder?) :=
  ⟨check_sharing,
    check_parameters Registry.standard.schema (candidateOf sharingStatement) check_sharing⟩

def swappedStatement : String := "SELECT imor FROM monthly_kpis WHERE bank_id = $1 AND period = $2"

def swappedCandidate : Candidate :=
  { candidateOf swappedStatement with
    parameters := [⟨"$2", .text "x"⟩, ⟨"$1", .text "INVEX"⟩] }

/-- Parameters that are let through may be listed in another order than that of their numbers. -/
theorem check_ignores_order : ¬ ∀ (schema : Schema) (c : Candidate),
    check schema c = .ok () → ∃ query, statements? c.statement = some [some query] ∧
      c.BindsByPlace query := by
  intro hall
  have hc : check Registry.standard.schema swappedCandidate = .ok () :=
    eq_ok_of_isOk (by decide +kernel)
  obtain ⟨query, -, hb⟩ := hall _ _ hc
  have hfirst : swappedCandidate.atPlace? "$1" = some ⟨"$2", .text "x"⟩ := by decide
  obtain ⟨p, -, hname, hat⟩ :=
    hb.values "$1" ((hb.places "$1").mpr ⟨0, by decide, by decide⟩)
  obtain rfl : (⟨"$2", .text "x"⟩ : Parameter) = p := Option.some.inj (hfirst.symm.trans hat)
  exact absurd hname (by decide)

end Guard

end BankQuery
