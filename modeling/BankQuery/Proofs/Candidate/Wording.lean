import BankQuery.Proofs.Candidate.Acceptance
import BankQuery.Proofs.Guard.Placeholders

/-!
# The wording of a candidate

Questions of one shape are about the same metric in the same layout and order and name equally many
banks and segments. `Candidate.generate_sameShape` says that their candidates differ in the bound
values alone: what the banks and segments are called, which months are asked for and how many places
a ranking has never reaches the statement, and never decides whether there is one.

A candidate is made by a plan, which says where the numbers are read and holds no value of the
question.
-/

namespace BankQuery

/-- The questions agree in all but what their banks, their segments, their range and their number of
places are. -/
structure Question.SameShape (q q' : Question) : Prop where
  metric : q.metric = q'.metric
  mode : q.mode = q'.mode
  order : q.order = q'.order
  banks : q.banks.length = q'.banks.length
  filters : q.filters.length = q'.filters.length

namespace Question.SameShape

variable {q q' : Question}

theorem isEmpty_banks (h : q.SameShape q') : q.banks.isEmpty = q'.banks.isEmpty := by
  rw [Bool.eq_iff_iff, List.isEmpty_iff_length_eq_zero, List.isEmpty_iff_length_eq_zero, h.banks]

theorem isEmpty_filters (h : q.SameShape q') : q.filters.isEmpty = q'.filters.isEmpty := by
  rw [Bool.eq_iff_iff, List.isEmpty_iff_length_eq_zero, List.isEmpty_iff_length_eq_zero, h.filters]

theorem isExecutable_eq (h : q.SameShape q') : q.isExecutable = q'.isExecutable := by
  rw [isExecutable, isExecutable, h.metric, h.mode, h.isEmpty_banks]

end Question.SameShape

namespace Generation

structure Plan where
  table : Table
  column : String
  segment : Option String

def plan (r : Registry) (q : Question) (c : Context) (afterRejection : Bool) :
    Except GenerationFault Plan :=
  if !q.isExecutable then .error .incomplete
  else
    match r.metric? (q.metric.getD "") with
    | none => .error (.unknownMetric (q.metric.getD ""))
    | some m =>
      match source? r c q m afterRejection with
      | none => .error .noTable
      | some (t, column) => (segmentColumn t q).map fun segment => ⟨t, column, segment⟩

def Plan.candidate (p : Plan) (options : Options) (r : Registry) (q : Question)
    (afterRejection : Bool) : Candidate where
  statement := text p.table p.column p.segment (shape r q)
  parameters := numbered (values options r q)
  tables := [p.table.name]
  columns := namedColumns p.table p.column p.segment
  mode := q.mode
  topN := q.topN
  attempt := if afterRejection then 2 else 1

theorem generate_eq (options : Options) (r : Registry) (q : Question) (c : Context)
    (rejection : Option Rejection) : Candidate.generate options r q c rejection =
      (plan r q c rejection.isSome).map fun p => p.candidate options r q rejection.isSome := by
  unfold Candidate.generate plan
  dsimp only
  split
  · rfl
  · cases r.metric? (q.metric.getD "") with
    | none => rfl
    | some m =>
      cases hs : source? r c q m rejection.isSome with
      | none => simp only [hs, Except.map]
      | some source =>
        cases hg : segmentColumn source.1 q with
        | error fault => simp only [hs, hg, Except.map]
        | ok segment => simp only [hs, hg, Except.map, Plan.candidate]

variable {q q' : Question} (h : q.SameShape q') (r : Registry)

include h

theorem namedTables_congr (c : Context) (m : Metric) : namedTables c q m = namedTables c q' m := by
  rw [namedTables, namedTables, h.mode]

theorem source?_congr (c : Context) (m : Metric) (afterRejection : Bool) :
    source? r c q m afterRejection = source? r c q' m afterRejection := by
  have hd : defaultTable? r q = defaultTable? r q' := by
    rw [defaultTable?, defaultTable?, h.isEmpty_filters]
  have hc : contextTable? r c q m = contextTable? r c q' m := by
    rw [contextTable?, contextTable?, namedTables_congr h, h.isEmpty_filters]
  rw [source?, source?, hd, hc]

theorem segmentColumn_congr (t : Table) : segmentColumn t q = segmentColumn t q' := by
  rw [segmentColumn, segmentColumn, h.isEmpty_filters]

/-- No plan depends on a value of the question. -/
theorem plan_congr (c : Context) (afterRejection : Bool) :
    plan r q c afterRejection = plan r q' c afterRejection := by
  unfold plan
  simp only [h.isExecutable_eq, h.metric, source?_congr h, segmentColumn_congr h]

theorem leftOut?_congr : leftOut? r q = leftOut? r q' := by
  rw [leftOut?, leftOut?, h.isEmpty_banks]

theorem shape_congr : shape r q = shape r q' := by
  rw [shape, shape, h.mode, h.order, h.banks, h.filters, leftOut?_congr h]

theorem length_values_congr (options : Options) :
    (values options r q).length = (values options r q').length := by
  unfold values
  rw [h.mode, leftOut?_congr h]
  cases q'.mode with
  | single | compare | ranking =>
    simp only [List.length_append, List.length_map, List.length_cons, List.length_nil, h.banks,
      h.filters]

theorem names_congr (options : Options) : (numbered (values options r q)).map Parameter.name =
    (numbered (values options r q')).map Parameter.name := by
  rw [names_numbered, names_numbered, length_values_congr h]

end Generation

/-- The parameters of a candidate stand in the order of its placeholders. -/
theorem Candidate.isNumbered_of_generate {options : Generation.Options} {r : Registry}
    {q : Question} {c : Context} {rejection : Option Rejection} {a : Candidate}
    (h : generate options r q c rejection = .ok a) : a.IsNumbered := by
  rw [Generation.generate_eq] at h
  cases hp : Generation.plan r q c rejection.isSome with
  | error fault =>
    rw [hp] at h
    cases h
  | ok p =>
    rw [hp] at h
    cases h
    intro i v hv
    simp only [Generation.Plan.candidate, Generation.numbered, List.getElem?_mapIdx,
      Option.map_eq_some_iff] at hv
    obtain ⟨value, -, rfl⟩ := hv
    rfl

open Generation in
/-- Questions of one shape fail alike, or both become candidates, with one statement, one list of
names for the parameters, and the same tables and columns. -/
theorem Candidate.generate_sameShape (options : Options) (r : Registry) (c : Context)
    (rejection : Option Rejection) (q q' : Question) (h : q.SameShape q') :
    (∃ fault, generate options r q c rejection = .error fault ∧
        generate options r q' c rejection = .error fault) ∨
      ∃ a a', generate options r q c rejection = .ok a ∧
        generate options r q' c rejection = .ok a' ∧ a.statement = a'.statement ∧
        a.parameters.map Parameter.name = a'.parameters.map Parameter.name ∧
        a.tables = a'.tables ∧ a.columns = a'.columns := by
  rw [generate_eq, generate_eq, plan_congr h]
  cases plan r q' c rejection.isSome with
  | error fault => exact .inl ⟨fault, rfl, rfl⟩
  | ok p =>
    refine .inr ⟨p.candidate options r q rejection.isSome,
      p.candidate options r q' rejection.isSome, rfl, rfl, ?_⟩
    simp only [Plan.candidate, shape_congr h, names_congr h, and_self]

/-- The shape of `hostileQuestion` with ordinary names and other months. -/
def harmlessQuestion : Question where
  metric := some "imor"
  banks := ["BBVA", "BANORTE"]
  range := ⟨⟨2020, 3, 1, by decide, by decide, by decide⟩,
    ⟨2020, 3, 1, by decide, by decide, by decide⟩⟩
  filters := ["vivienda", "automotriz"]
  mode := .compare
  topN := some 7

theorem Candidate.generate_sameShape_hostile : hostileQuestion.SameShape harmlessQuestion ∧
    ∃ a a', generate {} Registry.standard hostileQuestion hostileContext none = .ok a ∧
      generate {} Registry.standard harmlessQuestion hostileContext none = .ok a' ∧
      a.statement = a'.statement ∧
      a.parameters.map Parameter.name = a'.parameters.map Parameter.name ∧
      a.tables = a'.tables ∧ a.columns = a'.columns := by
  have h : hostileQuestion.SameShape harmlessQuestion := ⟨rfl, rfl, rfl, rfl, rfl⟩
  have hok : (generate {} Registry.standard hostileQuestion hostileContext none).isOk = true := by
    decide +kernel
  refine ⟨h, ?_⟩
  rcases generate_sameShape {} Registry.standard hostileContext none _ _ h with ⟨_, hf, -⟩ | ha
  · rw [hf] at hok
    cases hok
  · exact ha

end BankQuery
