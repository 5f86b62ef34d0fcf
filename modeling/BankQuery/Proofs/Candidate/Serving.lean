import BankQuery.Proofs.Candidate.Wording
import BankQuery.Proofs.Question.FollowUp
import BankQuery.Proofs.Registry.Consistency
import BankQuery.Sql.Keyword

/-!
# What a checked registry serves

The check of a registry asks for the columns of the metrics. It does not ask for the columns by
which a table tells banks, months and segments apart, and these are named in every statement too.
`Candidate.generate_served` says what that comes to: a question that a checked registry resolves has
a table, and is served if and only if the table has them.
-/

namespace BankQuery

namespace Sql

structure IsUnreserved (s : String) : Prop extends IsWord s where
  small : Text.asciiLower s = s
  keyword : Text.upper s ∉ keywords
  allowed : Text.upper s ∉ Guard.forbiddenWords

theorem mem_keywords_of_mem_reserved :
    ∀ word ∈ reserved, word ∈ keywords ∨ word ∈ Guard.forbiddenWords := by
  decide +kernel

theorem IsUnreserved.isOrdinary {s : String} (h : IsUnreserved s) : IsOrdinary s where
  toIsWord := h.toIsWord
  free hm := (mem_keywords_of_mem_reserved _ hm).elim h.keyword h.allowed

instance (s : String) : Decidable (IsUnreserved s) :=
  decidable_of_iff (IsWord s ∧ Text.asciiLower s = s ∧ Text.upper s ∉ keywords ∧
      Text.upper s ∉ Guard.forbiddenWords)
    ⟨fun ⟨h, hs, hk, ha⟩ => ⟨h, hs, hk, ha⟩, fun h => ⟨h.toIsWord, h.small, h.keyword, h.allowed⟩⟩

end Sql

open Sql Guard

def Table.names (t : Table) : List String :=
  t.name :: t.bankColumn :: t.timeColumn :: t.segmentColumn.toList ++ t.columns.map Column.name

def Schema.names (s : Schema) : List String := s.tables.flatMap Table.names

/-- The columns of banks and months, and of segments if the question is about some, are columns of
the table. -/
structure Table.Serves (t : Table) (q : Question) : Prop where
  bank : t.hasColumn t.bankColumn = true
  time : t.hasColumn t.timeColumn = true
  segment : q.filters ≠ [] → ∃ g ∈ t.segmentColumn, t.hasColumn g = true

section Names

variable {s : Schema} {t : Table} {name : String}

theorem Schema.mem_names (h : s.table? name = some t) : ∀ n ∈ t.names, n ∈ s.names := fun _ hn =>
  List.mem_flatMap.mpr ⟨t, List.mem_of_find?_eq_some h, hn⟩

theorem Table.isOrdinary_of_names (h : ∀ n ∈ t.names, IsOrdinary n) {column : String}
    (hc : t.hasColumn column = true) : IsOrdinary column := by
  obtain ⟨c, hm, hs⟩ := List.any_eq_true.mp hc
  refine (h c.name ?_).of_sameAscii hs
  exact List.mem_append_right _ (List.mem_map_of_mem hm)

end Names

namespace Generation

variable {r : Registry} {q : Question} {m : Metric} {t : Table}

/-- A metric of a coherent question stands in the table that the question is asked of. -/
theorem defaultTable?_of_isCoherent (hr : r.IsConsistent) (hq : q.IsCoherent r) :
    ∃ m t name, r.metric? (q.metric.getD "") = some m ∧ defaultTable? r q = some t ∧
      r.schema.table? name = some t ∧ t.hasColumn m.column = true := by
  obtain ⟨code, hcode, hq'⟩ := hq.metric
  obtain ⟨m', hm', rfl⟩ := List.mem_map.mp hcode
  have hfound : (r.metric? m'.code).isSome = true :=
    List.find?_isSome.mpr ⟨m', hm', Text.sameAscii_refl _⟩
  obtain ⟨m, hm⟩ := Option.isSome_iff_exists.mp hfound
  have hmem : m ∈ r.metrics := List.mem_of_find?_eq_some hm
  have htable : ∃ t name, defaultTable? r q = some t ∧ r.schema.table? name = some t ∧
      t.hasColumn m.column = true := by
    refine exists_defaultTable? (fun _ => ?_) (fun hf => ?_)
    · obtain ⟨t, ht, hc⟩ := hr.primary
      exact ⟨t, ht, hc m hmem⟩
    · obtain ⟨m', hm', hsegmented⟩ := hq.segmented hf
      rw [hq', Option.bind_some, hm, Option.some.injEq] at hm'
      exact hr.segments m hmem (hm' ▸ hsegmented)
  obtain ⟨t, name, ht, hn, hc⟩ := htable
  exact ⟨m, t, name, by rw [hq', Option.getD_some, hm], ht, hn, hc⟩

theorem source?_empty (r : Registry) (q : Question) (m : Metric) (afterRejection : Bool) :
    source? r Context.empty q m afterRejection =
      (defaultTable? r q).map fun t => (t, m.column) := by
  cases afterRejection with
  | true => rfl
  | false => rfl

theorem segmentColumn_eq_error {fault : GenerationFault} (h : segmentColumn t q = .error fault) :
    q.filters ≠ [] ∧ t.segmentColumn = none := by
  unfold segmentColumn at h
  cases hf : q.filters with
  | nil => simp [hf] at h
  | cons f fs =>
    cases hg : t.segmentColumn with
    | none => exact ⟨List.cons_ne_nil f fs, rfl⟩
    | some g => simp [hf, hg] at h

theorem mem_segmentColumn {segment : Option String} (h : segmentColumn t q = .ok segment) :
    segment.isSome = !q.filters.isEmpty ∧
      ∀ g, g ∈ segment ↔ q.filters ≠ [] ∧ g ∈ t.segmentColumn := by
  unfold segmentColumn at h
  cases hf : q.filters with
  | nil =>
    simp only [hf, List.isEmpty_nil, if_true, Except.ok.injEq] at h
    simp [← h]
  | cons f fs =>
    cases hg : t.segmentColumn with
    | none => simp [hf, hg] at h
    | some g =>
      simp only [hf, hg, List.isEmpty_cons, Bool.false_eq_true, if_false, Except.ok.injEq] at h
      simp [← h]

end Generation

open Generation in
/-- A question that a checked registry resolves is asked of one of its tables; it becomes a
candidate that the guard lets through if the columns of banks, months and, where some are asked for,
segments are among the columns of that table, and only then. -/
theorem Candidate.generate_served {r : Registry} (hr : r.check = .ok ())
    (hnames : ∀ n ∈ r.schema.names, IsOrdinary n) {reader : ReaderOptions} {anchor : Anchor}
    {text : String} {q : Question} {confidence : Confidence}
    (hq : Question.read r reader anchor none text = .ok (.resolved q confidence))
    (options : Options) (rejection : Option Rejection) :
    ∃ t, defaultTable? r q = some t ∧
      ((∃ candidate, generate options r q Context.empty rejection = .ok candidate ∧
        check r.schema candidate = .ok ()) ↔ t.Serves q) := by
  have hcoherent : q.IsCoherent r :=
    Question.isCoherent_of_read (Registry.nodup_bankIds hr) (fun _ hp => by cases hp) hq
  obtain ⟨m, t, name, hm, hd, hn, hc⟩ :=
    defaultTable?_of_isCoherent (Registry.check_eq_ok_iff.mp hr) hcoherent
  have ht : ∀ n ∈ t.names, IsOrdinary n := fun n hmem => hnames n (Schema.mem_names hn n hmem)
  have hplan : plan r q Context.empty rejection.isSome =
      (segmentColumn t q).map fun segment => ⟨t, m.column, segment⟩ := by
    rw [plan, hcoherent.executable, hm]
    simp only [Bool.not_true, Bool.false_eq_true, if_false, source?_empty, hd, Option.map_some]
  refine ⟨t, hd, ?_⟩
  rw [generate_eq, hplan]
  cases hs : segmentColumn t q with
  | error fault =>
    obtain ⟨hf, hg⟩ := segmentColumn_eq_error hs
    refine ⟨fun ⟨_, h, _⟩ => (by cases h), fun h => ?_⟩
    obtain ⟨g, hmem, -⟩ := h.segment hf
    rw [hg] at hmem
    cases hmem
  | ok segment =>
    obtain ⟨hsome, hmem⟩ := mem_segmentColumn hs
    have hsegment : ∀ g ∈ segment, IsOrdinary g := fun g hg =>
      ht g (by simp [Table.names, Option.mem_def.mp ((hmem g).mp hg).2])
    have hiff : check r.schema
        (Plan.candidate ⟨t, m.column, segment⟩ options r q rejection.isSome) = .ok () ↔
          t.hasColumn t.bankColumn = true ∧ t.hasColumn t.timeColumn = true ∧
            t.hasColumn m.column = true ∧ ∀ g ∈ segment, t.hasColumn g = true :=
      check_eq_ok_iff_hasColumns hcoherent.executable hsome (Schema.table?_name hn)
        (ht _ (by simp [Table.names])) (ht _ (by simp [Table.names]))
        (ht _ (by simp [Table.names])) (Table.isOrdinary_of_names ht hc) hsegment rfl rfl rfl
    refine ⟨fun ⟨candidate, hgenerate, haccept⟩ => ?_, fun h => ?_⟩
    · cases hgenerate
      obtain ⟨hbank, htime, -, hcolumns⟩ := hiff.mp haccept
      refine ⟨hbank, htime, fun hf => ?_⟩
      have hsome : segment.isSome = true := by
        rw [hsome, List.isEmpty_eq_false_iff.mpr hf]
        rfl
      obtain ⟨g, hg⟩ := Option.isSome_iff_exists.mp hsome
      exact ⟨g, ((hmem g).mp hg).2, hcolumns g hg⟩
    · refine ⟨_, rfl, hiff.mpr ⟨h.bank, h.time, hc, fun g hg => ?_⟩⟩
      obtain ⟨hf, hg⟩ := (hmem g).mp hg
      obtain ⟨g', hg', hcolumn⟩ := h.segment hf
      exact Option.some.inj (hg.symm.trans hg') ▸ hcolumn

theorem Candidate.generate_served_twoBanks : Question.twoBanksServed.check = .ok () ∧
    (∀ n ∈ Question.twoBanksServed.schema.names, IsOrdinary n) ∧
    ∃ q confidence,
      Question.read Question.twoBanksServed {} Question.midMonth none "mora norte junio 2025" =
        .ok (.resolved q confidence) ∧
      ∃ t, Generation.defaultTable? Question.twoBanksServed q = some t ∧
        ((∃ candidate,
          generate {} Question.twoBanksServed q Context.empty none = .ok candidate ∧
            check Question.twoBanksServed.schema candidate = .ok ()) ↔ t.Serves q) := by
  have hc : Question.twoBanksServed.check = .ok () := by decide +kernel
  have hn : ∀ n ∈ Question.twoBanksServed.schema.names, IsOrdinary n := by decide +kernel
  have hq : Question.questionOf?
      (Question.read Question.twoBanksServed {} Question.midMonth none "mora norte junio 2025") =
        some { Question.moraOfSur with banks := ["NORTE"] } := by
    decide +kernel
  obtain ⟨confidence, hq⟩ := Question.eq_resolved_of_questionOf? hq
  exact ⟨hc, hn, _, confidence, hq, generate_served hc hn hq {} none⟩

/-- A checked registry whose names are all unreserved resolves a question and then rejects every
statement about it: the columns of banks and months are not among those of the table. -/
theorem Candidate.generate_unserved : ¬ ∀ r : Registry, r.check = .ok () →
    (∀ n ∈ r.schema.names, IsUnreserved n) →
      ∀ (reader : ReaderOptions) (anchor : Anchor) (text : String) (q : Question)
        (confidence : Confidence),
        Question.read r reader anchor none text = .ok (.resolved q confidence) →
          ∀ options : Generation.Options, ∃ candidate,
            generate options r q Context.empty none = .ok candidate ∧
              check r.schema candidate = .ok () := by
  intro hall
  have hc : Question.twoBanks.check = .ok () := by decide +kernel
  have hn : ∀ n ∈ Question.twoBanks.schema.names, IsUnreserved n := by decide +kernel
  have hq : Question.questionOf? (Question.read Question.twoBanks {} Question.midMonth none
      "mora norte junio 2025") = some { Question.moraOfSur with banks := ["NORTE"] } := by
    decide +kernel
  obtain ⟨confidence, hq⟩ := Question.eq_resolved_of_questionOf? hq
  obtain ⟨candidate, hgenerate, haccept⟩ := hall _ hc hn _ _ _ _ _ hq {}
  have hrejected : (generate {} Question.twoBanks { Question.moraOfSur with banks := ["NORTE"] }
      Context.empty none).toOption.all fun c =>
        !decide (check Question.twoBanks.schema c = .ok ()) := by
    decide +kernel
  simp [hgenerate, haccept, Except.toOption] at hrejected

end BankQuery
