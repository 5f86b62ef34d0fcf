import Mathlib.Data.List.TakeWhile
import BankQuery.Proofs.Candidate.Template

/-!
# Placeholders in the text of a statement

A placeholder is a dollar sign with the digits behind it. Where no name of the registry holds a
dollar sign, `Candidate.generate_numbered` says what reading a generated statement from left to
right meets: the placeholders of its parameters, in their order and each once. It also says which
value each of them has, and that the dates bound the months of the table.
-/

namespace BankQuery

namespace Sql

def placeholderNames : List Char → List String
  | [] => []
  | c :: rest =>
    if c = '$' then String.ofList (c :: rest.takeWhile Char.isDigit) :: placeholderNames rest
    else placeholderNames rest

def NoDollar (s : String) : Prop := '$' ∉ s.toList

instance (s : String) : Decidable (NoDollar s) := inferInstanceAs (Decidable ('$' ∉ s.toList))

/-- What begins with no digit ends a placeholder. -/
theorem placeholderNames_append {rest : List Char} (hr : ∀ c ∈ rest.head?, c.isDigit = false)
    (cs : List Char) :
    placeholderNames (cs ++ rest) = placeholderNames cs ++ placeholderNames rest := by
  have hdigits : rest.takeWhile Char.isDigit = [] := by
    cases rest with
    | nil => rfl
    | cons d ds => simp [hr d rfl]
  induction cs with
  | nil => rfl
  | cons c cs ih =>
    have htake : (cs ++ rest).takeWhile Char.isDigit = cs.takeWhile Char.isDigit := by
      rw [List.takeWhile_append, hdigits, List.append_nil]
      split
      · rename_i hlength
        exact ((List.takeWhile_prefix Char.isDigit).eq_of_length hlength).symm
      · rfl
    rw [List.cons_append, placeholderNames, placeholderNames, htake, ih]
    split <;> rfl

theorem placeholderNames_eq_nil {cs : List Char} (h : '$' ∉ cs) : placeholderNames cs = [] := by
  induction cs with
  | nil => rfl
  | cons c cs ih =>
    rw [List.mem_cons, not_or] at h
    rw [placeholderNames, if_neg (Ne.symm h.1), ih h.2]

theorem placeholderNames_holeName (n : Nat) :
    placeholderNames (holeName n).toList = [holeName n] := by
  have hdigits : ∀ c ∈ (Nat.repr n).toList, c.isDigit = true := fun _ => isDigit_of_mem_repr
  have hfree : '$' ∉ (Nat.repr n).toList := fun h => absurd (hdigits '$' h) (by decide)
  have hlist : (holeName n).toList = '$' :: (Nat.repr n).toList := by
    rw [holeName, String.toList_append]
    rfl
  have htake : (Nat.repr n).toList.takeWhile Char.isDigit = (Nat.repr n).toList :=
    List.takeWhile_eq_self_iff.mpr hdigits
  rw [hlist, placeholderNames, if_pos rfl, placeholderNames_eq_nil hfree, htake, ← hlist,
    String.ofList_toList]

theorem Starts.not_isDigit {rest : List Char} (h : Starts rest) :
    ∀ c ∈ rest.head?, c.isDigit = false := by
  intro c hc
  rw [← Bool.not_eq_true]
  intro hdigit
  have hletter := isAlphanumeric_of_isDigit hdigit
  rw [(h.classes c hc).2.1] at hletter
  cases hletter

/-- The placeholders of a text of pieces are those of its pieces. -/
theorem placeholderNames_textOf (ps : List Piece) :
    placeholderNames (textOf ps) = ps.flatMap fun p => placeholderNames p.text.toList := by
  induction ps with
  | nil => rfl
  | cons p ps ih =>
    rw [List.flatMap_cons, ← ih]
    exact placeholderNames_append (starts_textOf ps).not_isDigit _

def namesOf (ps : List Piece) : List String := ps.flatMap fun p => placeholderNames p.text.toList

theorem namesOf_append (ps qs : List Piece) : namesOf (ps ++ qs) = namesOf ps ++ namesOf qs :=
  List.flatMap_append

theorem namesOf_cons (p : Piece) (ps : List Piece) :
    namesOf (p :: ps) = placeholderNames p.text.toList ++ namesOf ps :=
  List.flatMap_cons

theorem placeholderNames_word {s : String} (h : NoDollar s) :
    placeholderNames (Piece.word s).text.toList = [] := by
  apply placeholderNames_eq_nil
  intro hm
  rw [Piece.text, String.toList_append] at hm
  exact h (by simpa using hm)

theorem placeholderNames_openWord {s : String} (h : NoDollar s) :
    placeholderNames (Piece.openWord s).text.toList = [] := by
  apply placeholderNames_eq_nil
  intro hm
  rw [Piece.text, String.toList_append] at hm
  exact h (by simpa using hm)

theorem placeholderNames_hole (n : Nat) :
    placeholderNames (Piece.hole n).text.toList = [holeName n] := by
  rw [Piece.text, String.toList_append]
  exact placeholderNames_holeName n

theorem placeholderNames_openHole (n : Nat) :
    placeholderNames (Piece.openHole n).text.toList = [holeName n] := by
  rw [Piece.text, String.toList_append]
  exact placeholderNames_holeName n

theorem namesOf_word {s : String} (h : NoDollar s) (ps : List Piece) :
    namesOf (.word s :: ps) = namesOf ps := by
  rw [namesOf_cons, placeholderNames_word h, List.nil_append]

theorem namesOf_field {f : Field} (h : ∀ s ∈ f.names, NoDollar s) : namesOf f.pieces = [] := by
  cases f with
  | plain c =>
    rw [Field.pieces, namesOf_word (h c (by simp [Field.names]))]
    rfl
  | applied f c =>
    rw [Field.pieces, namesOf_word (h f (by simp [Field.names])), namesOf_cons,
      placeholderNames_openWord (h c (by simp [Field.names]))]
    rfl

theorem namesOf_listedPieces {α : Type} {pieces : α → List Piece} {x : α} {xs : List α}
    (h : ∀ y ∈ x :: xs, namesOf (pieces y) = []) : namesOf (listedPieces pieces x xs) = [] := by
  rw [listedPieces, namesOf_append, h x List.mem_cons_self, List.nil_append, namesOf,
    List.flatMap_assoc, List.flatMap_eq_nil_iff]
  intro y hy
  exact h y (List.mem_cons_of_mem x hy)

/-- A test holds its placeholders from left to right. -/
theorem namesOf_test {t : Test} (h : NoDollar t.column) :
    namesOf t.pieces = t.holes.map holeName := by
  have hlist (ns : List Nat) :
      namesOf (ns.flatMap fun m => [.comma, .hole m]) = ns.map holeName := by
    induction ns with
    | nil => rfl
    | cons n ns ih =>
      rw [List.flatMap_cons, namesOf_append, ih, namesOf_cons, namesOf_cons, placeholderNames_hole]
      rfl
  rw [Test.pieces, namesOf_word h]
  cases t with
  | equals c n | differs c n =>
    rw [Test.behind, namesOf_cons, namesOf_cons, placeholderNames_hole]
    rfl
  | within c n ns =>
    rw [Test.behind, namesOf_append, namesOf_word (by decide), namesOf_cons,
      placeholderNames_openHole, hlist]
    exact List.append_nil _
  | between c low high =>
    rw [Test.behind, namesOf_word (by decide), namesOf_cons, namesOf_word (by decide), namesOf_cons,
      placeholderNames_hole, placeholderNames_hole]
    rfl

namespace Report

structure IsPlainText (r : Report) : Prop where
  fields : ∀ h ∈ r.heading :: r.headings, ∀ s ∈ h.field.names, NoDollar s
  labels : ∀ h ∈ r.heading :: r.headings, NoDollar h.label
  table : NoDollar r.table
  tests : ∀ t ∈ r.test :: r.tests, NoDollar t.column
  group : ∀ c ∈ r.group, NoDollar c
  sortings : ∀ s ∈ r.sorting :: r.sortings, ∀ c ∈ s.field.names, NoDollar c

section Pieces

variable {r : Report} (h : r.IsPlainText)

include h

theorem IsPlainText.namesOf_headings :
    namesOf (listedPieces Heading.pieces r.heading r.headings) = [] := by
  apply namesOf_listedPieces
  intro i hi
  rw [Heading.pieces, namesOf_append, namesOf_field (h.fields i hi), namesOf_word (by decide),
    namesOf_word (h.labels i hi)]
  rfl

theorem IsPlainText.namesOf_tests : namesOf (conjunctionPieces r.test r.tests) =
    ((r.test :: r.tests).flatMap Test.holes).map holeName := by
  rw [conjunctionPieces, namesOf_append, namesOf_test (h.tests r.test List.mem_cons_self),
    List.flatMap_cons, List.map_append]
  refine congrArg _ ?_
  rw [namesOf, List.flatMap_assoc, List.map_flatMap]
  refine List.flatMap_congr fun t ht => ?_
  exact (namesOf_word (by decide) t.pieces).trans
    (namesOf_test (h.tests t (List.mem_cons_of_mem _ ht)))

theorem IsPlainText.namesOf_group : namesOf (grouping r.group) = [] := by
  cases hg : r.group with
  | none => rfl
  | some c =>
    rw [grouping, namesOf_word (by decide), namesOf_word (by decide), namesOf_word (h.group c hg)]
    rfl

theorem IsPlainText.namesOf_sortings :
    namesOf (listedPieces Sorting.pieces r.sorting r.sortings) = [] := by
  apply namesOf_listedPieces
  intro i hi
  rw [Sorting.pieces, namesOf_append, namesOf_append, namesOf_field (h.sortings i hi)]
  rcases i.descending with _ | _ | _ <;> cases i.nullsLast <;> decide

theorem IsPlainText.namesOf_ending : namesOf r.ending = r.limit.toList.map holeName := by
  have hlimit : namesOf (limiting r.limit) = r.limit.toList.map holeName := by
    cases r.limit with
    | none => rfl
    | some n =>
      rw [limiting, namesOf_word (by decide), namesOf_cons, placeholderNames_hole]
      rfl
  change namesOf (.word "ORDER" :: .word "BY" ::
    (listedPieces Sorting.pieces r.sorting r.sortings ++ limiting r.limit)) = _
  rw [namesOf_word (by decide), namesOf_word (by decide), namesOf_append, h.namesOf_sortings, hlimit,
    List.nil_append]

/-- Reading the text of a report meets its placeholders. -/
theorem placeholderNames_text : placeholderNames r.text.toList = r.holes.map holeName := by
  have hpieces : namesOf r.pieces = r.holes.map holeName := by
    rw [pieces, namesOf_append, h.namesOf_headings, List.nil_append]
    change namesOf (.word "FROM" :: .word r.table :: .word "WHERE" :: r.condition) = _
    rw [namesOf_word (by decide), namesOf_word h.table, namesOf_word (by decide), condition,
      namesOf_append, h.namesOf_tests, namesOf_append, h.namesOf_group, h.namesOf_ending,
      List.nil_append, holes, List.map_append]
  rw [toList_text, placeholderNames_append (starts_textOf r.pieces).not_isDigit,
    placeholderNames_textOf]
  exact hpieces

end Pieces

theorem isPlainText_of_columns {r : Report} (ha : r.Aggregates) (hc : r.Columns NoDollar)
    (ht : NoDollar r.table) (hl : ∀ h ∈ r.heading :: r.headings, NoDollar h.label) :
    r.IsPlainText := by
  have hfunctions : ∀ f ∈ Guard.allowedFunctions, NoDollar f := by decide
  have hfield {f : Field} (hf : ∀ g c, f = .applied g c → g ∈ Guard.allowedFunctions)
      (hcolumn : NoDollar f.column) : ∀ s ∈ f.names, NoDollar s := by
    intro s hs
    cases f with
    | plain c =>
      rw [List.mem_singleton.mp hs]
      exact hcolumn
    | applied g c =>
      rcases List.mem_cons.mp hs with rfl | hs
      · exact hfunctions s (hf s c rfl)
      · rw [List.mem_singleton.mp hs]
        exact hcolumn
  exact { fields := fun h hh => hfield (ha.fields h hh) (hc.fields h hh)
          labels := hl
          table := ht
          tests := hc.tests
          group := hc.group
          sortings := fun s hs => hfield (ha.sortings s hs) (hc.sortings s hs) }

end Report

theorem IsWord.noDollar {s : String} (h : IsWord s) : NoDollar s := by
  intro hm
  have hletter := h.letters '$' hm
  revert hletter
  decide

/-- No letter is a dollar sign in the other case. -/
theorem eq_dollar_of_toLower {c : Char} (h : c.toLower = '$') : c = '$' := by
  have hletter : isWordLetter c = false := by
    rw [← (classes_toLower c).1, h]
    decide
  have hlower : c.toLower = c := by
    apply dif_neg
    intro hrange
    have hupper : c.isUpper = true := decide_eq_true hrange
    have hnone : (((c.isUpper || c.isLower) || c.isDigit) || c == '_') = false := hletter
    rw [hupper] at hnone
    cases hnone
  exact hlower.symm.trans h

theorem NoDollar.of_sameAscii {a b : String} (h : NoDollar a) (hs : Text.sameAscii a b = true) :
    NoDollar b := by
  have he : a.toList.map Char.toLower = b.toList.map Char.toLower :=
    String.ofList_injective (Text.sameAscii_iff.mp hs)
  intro hm
  have hmem : '$' ∈ a.toList.map Char.toLower := by
    rw [he]
    exact List.mem_map.mpr ⟨'$', hm, rfl⟩
  obtain ⟨c, hc, hlow⟩ := List.mem_map.mp hmem
  exact h (eq_dollar_of_toLower hlow ▸ hc)

end Sql

open Sql

namespace Generation

section Numbers

variable {r : Registry} {q : Question} {t : Table} {column : String} {segment : Option String}

theorem table_report (s : Shape) : (report t column segment s).table = t.name := by
  unfold report
  split <;> rfl

theorem isPlainText_report {s : Shape} (hname : NoDollar t.name) (hbank : NoDollar t.bankColumn)
    (htime : NoDollar t.timeColumn) (hcolumn : NoDollar column)
    (hsegment : ∀ g ∈ segment, NoDollar g) : (report t column segment s).IsPlainText := by
  exact Report.isPlainText_of_columns aggregates_report
    (columns_report.mpr ⟨hbank, htime, hcolumn, hsegment⟩) (by rwa [table_report])
    fun h hh => (labels_report h hh).toIsWord.noDollar

/-- Where the registry has no dollar sign in its names, the reports of its plans have none. -/
theorem isPlainText_of_plan {c : Context} {afterRejection : Bool} {p : Plan}
    (hnames : ∀ n ∈ r.schema.names, NoDollar n) (hmetrics : ∀ m ∈ r.metrics, NoDollar m.column)
    (h : plan r q c afterRejection = .ok p) :
    (report p.table p.column p.segment (shape r q)).IsPlainText := by
  obtain ⟨-, m, hm, hs, hg⟩ := exists_of_plan_eq_ok h
  obtain ⟨ht, hcolumn, -⟩ := mem_tables_of_source? hs
  have htable : ∀ n ∈ p.table.names, NoDollar n := fun n hn =>
    hnames n (List.mem_flatMap.mpr ⟨p.table, ht, hn⟩)
  have hplain : NoDollar p.column := by
    rcases hcolumn with hc | hc
    · rw [hc]
      exact hmetrics m (List.mem_of_find?_eq_some hm)
    · obtain ⟨k, hk, hsame⟩ := List.any_eq_true.mp hc
      refine (htable k.name ?_).of_sameAscii hsame
      exact List.mem_append_right _ (List.mem_map_of_mem hk)
  apply isPlainText_report (htable _ (by simp [Table.names])) (htable _ (by simp [Table.names]))
    (htable _ (by simp [Table.names])) hplain
  intro g hsegment
  have hmem : g ∈ p.table.segmentColumn := (((mem_segmentColumn hg).2 g).mp hsegment).2
  exact htable g (by simp [Table.names, Option.mem_def.mp hmem])

theorem map_value_numbered (vs : List BoundValue) :
    (numbered vs).map Parameter.value = vs := by
  refine List.ext_getElem (by simp [numbered]) fun i _ _ => ?_
  simp [numbered]

theorem values_series (h : q.mode ≠ .ranking) (options : Options) : values options r q =
    q.banks.map .text ++ q.filters.map .text ++ [.date q.range.start, .date q.range.stop] := by
  unfold values
  cases hm : q.mode with
  | single | compare => rfl
  | ranking => exact absurd hm h

theorem values_ranking (h : q.mode = .ranking) (options : Options) : values options r q =
    [.date q.range.start, .date q.range.stop] ++
      (if q.banks = [] then (r.banks.find? Bank.aggregate).toList.map fun b => .text b.id
        else q.banks.map .text) ++
      q.filters.map .text ++ [.int (Int64.ofNat (q.topN.getD options.defaultLimit).toNat)] := by
  unfold values leftOut? Registry.systemBank?
  rw [h]
  cases q.banks with
  | nil => cases r.banks.find? Bank.aggregate <;> rfl
  | cons b bs =>
    rw [if_neg (List.cons_ne_nil b bs), List.isEmpty_cons, if_neg Bool.false_ne_true]
    simp

/-- The dates bound the months of the table. -/
theorem exists_between (options : Options) (hg : segment.isSome = !q.filters.isEmpty) :
    ∃ i, Test.between t.timeColumn (i + 1) (i + 2) ∈
        (report t column segment (shape r q)).test :: (report t column segment (shape r q)).tests ∧
      (values options r q)[i]? = some (.date q.range.start) ∧
      (values options r q)[i + 1]? = some (.date q.range.stop) := by
  unfold report values shape
  cases q.mode with
  | ranking => exact ⟨0, List.mem_cons_self, rfl, rfl⟩
  | single | compare =>
    have hfilters : (if segment.isSome then q.filters.length else 0) = q.filters.length := by
      rw [hg]
      cases q.filters <;> rfl
    have hlength : (q.banks.map BoundValue.text ++ q.filters.map BoundValue.text).length =
        q.banks.length + q.filters.length := by
      rw [List.length_append, List.length_map, List.length_map]
    refine ⟨q.banks.length + q.filters.length, List.mem_cons_of_mem _ ?_, ?_, ?_⟩
    · apply List.mem_append_right
      rw [hfilters]
      exact List.mem_cons_self
    · rw [List.getElem?_append_right (Nat.le_of_eq hlength), hlength, Nat.sub_self]
      rfl
    · rw [List.getElem?_append_right (by omega), hlength, Nat.add_sub_cancel_left]
      rfl

end Numbers

end Generation

open Generation in
/-- Where no name of a table or of a column holds a dollar sign, reading a generated statement from
left to right meets the placeholders of its parameters, which are numbered from one on, each once.
A series binds banks, segments and dates in this order; a ranking binds the dates, the banks or the
one that stands for the market, the segments and the number of places. The statement is a report,
and one of the tests that a row has to pass bounds the months of the table by the two dates. -/
theorem Candidate.generate_numbered {r : Registry} (hnames : ∀ n ∈ r.schema.names, NoDollar n)
    (hmetrics : ∀ m ∈ r.metrics, NoDollar m.column) {options : Options} {q : Question}
    {c : Context} {rejection : Option Rejection} {a : Candidate}
    (h : generate options r q c rejection = .ok a) :
    placeholderNames a.statement.toList = a.names ∧ a.IsNumbered ∧
      (q.mode ≠ .ranking → a.parameters.map Parameter.value =
        q.banks.map .text ++ q.filters.map .text ++ [.date q.range.start, .date q.range.stop]) ∧
      (q.mode = .ranking → a.parameters.map Parameter.value =
        [.date q.range.start, .date q.range.stop] ++
          (if q.banks = [] then (r.banks.find? Bank.aggregate).toList.map fun b => .text b.id
            else q.banks.map .text) ++
          q.filters.map .text ++ [.int (Int64.ofNat (q.topN.getD options.defaultLimit).toNat)]) ∧
      ∃ t ∈ r.schema.tables, a.tables = [t.name] ∧
        ∃ (written : Report) (i : Nat), a.statement = written.text ∧ written.table = t.name ∧
          .between t.timeColumn (i + 1) (i + 2) ∈ written.test :: written.tests ∧
          (a.parameters[i]?).map Parameter.value = some (.date q.range.start) ∧
          (a.parameters[i + 1]?).map Parameter.value = some (.date q.range.stop) := by
  have hnumbered := isNumbered_of_generate h
  rw [generate_eq] at h
  cases hp : plan r q c rejection.isSome with
  | error fault =>
    rw [hp] at h
    cases h
  | ok p =>
    rw [hp] at h
    cases h
    obtain ⟨he, m, hm, hs, hg⟩ := exists_of_plan_eq_ok hp
    obtain ⟨ht, -, -⟩ := mem_tables_of_source? hs
    obtain ⟨hsome, -⟩ := mem_segmentColumn hg
    obtain ⟨htext, hholes⟩ := @text_report r q p.table p.column p.segment he hsome
    obtain ⟨i, hbetween, hstart, hstop⟩ :=
      @exists_between r q p.table p.column p.segment options hsome
    have hvalues := map_value_numbered (values options r q)
    have hvalue (j : Nat) : ((numbered (values options r q))[j]?).map Parameter.value =
        (values options r q)[j]? := by
      rw [← List.getElem?_map, hvalues]
    have hread : placeholderNames (text p.table p.column p.segment (shape r q)).toList =
        (numbered (values options r q)).map Parameter.name := by
      rw [htext, Report.placeholderNames_text (isPlainText_of_plan hnames hmetrics hp), hholes,
        names_numbered, length_values options r hsome]
    exact ⟨hread, hnumbered, fun hmode => hvalues.trans (values_series hmode options),
      fun hmode => hvalues.trans (values_ranking hmode options), p.table, ht, rfl,
      report p.table p.column p.segment (shape r q), i, htext, table_report _, hbetween,
      (hvalue i).trans hstart, (hvalue (i + 1)).trans hstop⟩

/-- The values of the question hold the text of a placeholder, and the statement does not. -/
theorem Candidate.generate_numbered_hostile :
    (∀ n ∈ Registry.standard.schema.names, NoDollar n) ∧
    (∀ m ∈ Registry.standard.metrics, NoDollar m.column) ∧
    ∃ a, generate {} Registry.standard hostileQuestion insistentContext none = .ok a ∧
      placeholderNames a.statement.toList = a.names ∧ a.IsNumbered ∧
      a.parameters.map Parameter.value =
        [.text "INVEX", .text "'; DROP TABLE monthly_kpis; --", .text "consumo", .text "$1",
          .date hostileQuestion.range.start, .date hostileQuestion.range.stop] := by
  have hnames : ∀ n ∈ Registry.standard.schema.names, NoDollar n := by decide
  have hmetrics : ∀ m ∈ Registry.standard.metrics, NoDollar m.column := by decide
  have hok : (generate {} Registry.standard hostileQuestion insistentContext none).isOk = true := by
    decide +kernel
  cases ha : generate {} Registry.standard hostileQuestion insistentContext none with
  | error fault =>
    rw [ha] at hok
    cases hok
  | ok a =>
    obtain ⟨hread, hnumbered, hseries, -⟩ := generate_numbered hnames hmetrics ha
    exact ⟨hnames, hmetrics, a, rfl, hread, hnumbered, hseries (by decide)⟩

end BankQuery
