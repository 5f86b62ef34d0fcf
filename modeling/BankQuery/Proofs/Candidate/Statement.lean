import BankQuery.Candidate.Generation
import BankQuery.Proofs.Sql.Reading

/-!
# Generated statements as reports

Both templates write a report: the series report has a row for each bank and month, the ranking
report one for each bank. The placeholders of either are numbered from one on without a gap.
-/

namespace BankQuery.Generation

open Sql

/-- The column is one of the values bound to `count` placeholders from number `first` on. -/
def listTest (column : String) (first count : Nat) : Test :=
  .within column first (List.range' (first + 1) (count - 1))

def seriesReport (t : Table) (column : String) (segment : Option String) (s : Shape) : Report :=
  let dates := s.banks + (if segment.isSome then s.filters else 0)
  { heading := ⟨.plain t.bankColumn, "bank"⟩
    headings := [⟨.plain t.timeColumn, "period"⟩] ++
      segment.toList.map (fun g => ⟨.plain g, "segment"⟩) ++ [⟨.plain column, "value"⟩]
    table := t.name
    test := if s.mode = .single ∧ s.banks = 1 then .equals t.bankColumn 1
      else listTest t.bankColumn 1 s.banks
    tests := segment.toList.map (fun g => listTest g (s.banks + 1) s.filters) ++
      [.between t.timeColumn (dates + 1) (dates + 2)]
    sorting := { field := .plain t.bankColumn }
    sortings := segment.toList.map (fun g => { field := .plain g }) ++
      [{ field := .plain t.timeColumn }] }

def rankingReport (t : Table) (column : String) (segment : Option String) (s : Shape) : Report :=
  let next := 3 + (if s.banks ≠ 0 then s.banks else if s.leavesOutSystem then 1 else 0)
  { heading := ⟨.plain t.bankColumn, "bank"⟩
    headings := [⟨.applied "MAX" t.timeColumn, "period"⟩, ⟨.applied "AVG" column, "value"⟩]
    table := t.name
    test := .between t.timeColumn 1 2
    tests := (if s.banks ≠ 0 then [listTest t.bankColumn 3 s.banks]
      else if s.leavesOutSystem then [.differs t.bankColumn 3] else []) ++
        segment.toList.map fun g => listTest g next s.filters
    group := some t.bankColumn
    sorting := { field := .applied "AVG" column, descending := some (s.order == .descending),
                 nullsLast := true }
    sortings := [{ field := .plain t.bankColumn }]
    limit := some (next + if segment.isSome then s.filters else 0) }

theorem placeholder_eq (n : Nat) : placeholder n = holeName n := rfl

theorem placeholders_succ (first count : Nat) : placeholders first (count + 1) = holeName first ++
    spelled ((List.range' (first + 1) count).flatMap fun m => [.comma, .hole m]) := by
  have hrange : placeholders first (count + 1) =
      ", ".intercalate ((List.range' first (count + 1)).map holeName) := by
    rw [placeholders, List.range'_eq_map_range, List.map_map]
    rfl
  rw [hrange]
  clear hrange
  induction count generalizing first with
  | zero => exact String.intercalate_singleton.trans String.append_empty.symm
  | succ count ih =>
    rw [List.range'_succ, List.map_cons, List.range'_succ, List.map_cons,
      String.intercalate_cons_cons, ← List.map_cons, ← List.range'_succ, ih, List.range'_succ,
      List.flatMap_cons, spelled_append]
    simp [spelled, Piece.text, ← String.toList_inj]

theorem spelled_equals (column : String) (n : Nat) (ps : List Piece) :
    spelled ((Test.equals column n).pieces ++ ps) =
      " " ++ (column ++ (" = " ++ (holeName n ++ spelled ps))) := by
  simp [Test.pieces, Test.behind, Test.column, spelled, Piece.text, ← String.toList_inj]

theorem spelled_differs (column : String) (n : Nat) (ps : List Piece) :
    spelled ((Test.differs column n).pieces ++ ps) =
      " " ++ (column ++ (" <> " ++ (holeName n ++ spelled ps))) := by
  simp [Test.pieces, Test.behind, Test.column, spelled, Piece.text, ← String.toList_inj]

theorem spelled_between (column : String) (low high : Nat) (ps : List Piece) :
    spelled ((Test.between column low high).pieces ++ ps) = " " ++ (column ++ (" BETWEEN " ++
      (holeName low ++ (" AND " ++ (holeName high ++ spelled ps))))) := by
  simp [Test.pieces, Test.behind, Test.column, spelled, Piece.text, ← String.toList_inj]

theorem spelled_listTest {column : String} {first count : Nat} (h : count ≠ 0) (ps : List Piece) :
    spelled ((listTest column first count).pieces ++ ps) =
      " " ++ (column ++ (" IN (" ++ (placeholders first count ++ (")" ++ spelled ps)))) := by
  obtain ⟨count, rfl⟩ := Nat.exists_eq_succ_of_ne_zero h
  rw [placeholders_succ]
  simp [listTest, Test.pieces, Test.behind, Test.column, spelled, spelled_append, Piece.text,
    ← String.toList_inj]

theorem spelled_seriesTest {t : Table} {s : Shape} (hb : s.banks ≠ 0) (ps : List Piece) :
    spelled ((if s.mode = .single ∧ s.banks = 1 then Test.equals t.bankColumn 1
        else listTest t.bankColumn 1 s.banks).pieces ++ ps) =
      " " ++ ((if s.mode = .single ∧ s.banks = 1 then t.bankColumn ++ " = " ++ placeholder 1
        else t.bankColumn ++ " IN (" ++ placeholders 1 s.banks ++ ")") ++ spelled ps) := by
  split
  · rw [spelled_equals, String.append_assoc, String.append_assoc]
    rfl
  · rw [spelled_listTest hb]
    simp only [String.append_assoc]

theorem spelled_rankingTests (t : Table) (s : Shape) (ps : List Piece) :
    spelled ((if s.banks ≠ 0 then [listTest t.bankColumn 3 s.banks]
        else if s.leavesOutSystem then [Test.differs t.bankColumn 3] else []).flatMap
          (fun u => .word "AND" :: u.pieces) ++ ps) =
      (if s.banks ≠ 0 then " AND " ++ t.bankColumn ++ " IN (" ++ placeholders 3 s.banks ++ ")"
        else if s.leavesOutSystem then " AND " ++ t.bankColumn ++ " <> " ++ placeholder 3
        else "") ++ spelled ps := by
  by_cases hb : s.banks ≠ 0
  · simp only [if_pos hb, List.flatMap_cons, List.flatMap_nil, List.append_nil, List.cons_append,
      spelled, spelled_listTest hb]
    simp [Piece.text, ← String.toList_inj]
  · by_cases hl : s.leavesOutSystem = true
    · simp only [if_neg hb, if_pos hl, List.flatMap_cons, List.flatMap_nil, List.append_nil,
        List.cons_append, spelled, spelled_differs]
      simp [Piece.text, placeholder_eq, ← String.toList_inj]
    · simp only [if_neg hb, if_neg hl, List.flatMap_nil, List.nil_append, String.empty_append]

theorem spelled_direction (order : RankOrder) (ps : List Piece) :
    spelled (Sorting.direction (some (order == .descending)) ++ ps) =
      " " ++ (order.keyword ++ spelled ps) := by
  cases order with
  | ascending | descending => exact String.append_assoc

theorem seriesText_eq {t : Table} {column : String} {segment : Option String} {s : Shape}
    (hb : s.banks ≠ 0) (hf : segment.isSome = true → s.filters ≠ 0) :
    seriesText t column segment s = (seriesReport t column segment s).text := by
  have htest := spelled_seriesTest (t := t) hb
  rw [Report.text_eq_spelled]
  unfold seriesText seriesReport
  generalize (if s.mode = .single ∧ s.banks = 1 then Test.equals t.bankColumn 1
    else listTest t.bankColumn 1 s.banks) = u at htest ⊢
  generalize (if s.mode = .single ∧ s.banks = 1 then t.bankColumn ++ " = " ++ placeholder 1
    else t.bankColumn ++ " IN (" ++ placeholders 1 s.banks ++ ")") = tested at htest ⊢
  cases segment with
  | none =>
    simp only [Heading.pieces, Field.pieces, Report.grouping, Sorting.pieces, Sorting.direction,
      Sorting.nulls, Report.limiting, Option.toList_none, List.map_nil, List.nil_append,
      List.cons_append, List.flatMap_cons, List.flatMap_nil, List.append_nil]
    simp only [spelled, Piece.text, htest, spelled_between]
    simp [← String.toList_inj, placeholder_eq]
  | some g =>
    simp only [Heading.pieces, Field.pieces, Report.grouping, Sorting.pieces, Sorting.direction,
      Sorting.nulls, Report.limiting, Option.toList_some, List.map_cons, List.map_nil,
      List.nil_append, List.cons_append, List.flatMap_cons, List.flatMap_nil, List.append_nil,
      List.append_assoc]
    simp only [spelled, Piece.text, htest, spelled_between, spelled_listTest (hf rfl)]
    simp [← String.toList_inj, placeholder_eq]

theorem rankingText_eq {t : Table} {column : String} {segment : Option String} {s : Shape}
    (hf : segment.isSome = true → s.filters ≠ 0) :
    rankingText t column segment s = (rankingReport t column segment s).text := by
  have htests := spelled_rankingTests t s
  have hone : holeName 1 = "$1" := rfl
  have htwo : holeName 2 = "$2" := rfl
  rw [Report.text_eq_spelled]
  unfold rankingText rankingReport
  generalize (if s.banks ≠ 0 then [listTest t.bankColumn 3 s.banks]
    else if s.leavesOutSystem then [Test.differs t.bankColumn 3] else []) = us at htests ⊢
  generalize (if s.banks ≠ 0 then " AND " ++ t.bankColumn ++ " IN (" ++ placeholders 3 s.banks ++ ")"
    else if s.leavesOutSystem then " AND " ++ t.bankColumn ++ " <> " ++ placeholder 3
    else "") = tested at htests ⊢
  cases segment with
  | none =>
    simp only [Heading.pieces, Field.pieces, Report.grouping, Sorting.pieces, Sorting.nulls,
      Report.limiting, Option.toList_none, List.map_nil, List.nil_append, List.cons_append,
      List.flatMap_cons, List.flatMap_nil, List.append_nil, List.append_assoc, Option.isSome_none,
      Bool.false_eq_true, if_false, Nat.add_zero]
    simp only [spelled, Piece.text, spelled_direction, spelled_between, htests]
    simp only [Sorting.direction, List.nil_append, spelled, Piece.text]
    simp [← String.toList_inj, placeholder_eq, hone, htwo]
  | some g =>
    simp only [Heading.pieces, Field.pieces, Report.grouping, Sorting.pieces, Sorting.nulls,
      Report.limiting, Option.toList_some, List.map_cons, List.map_nil, List.nil_append,
      List.cons_append, List.flatMap_cons, List.flatMap_nil, List.append_nil, List.append_assoc,
      List.flatMap_append, Option.isSome_some, if_true]
    simp only [spelled, Piece.text, spelled_direction, spelled_between, htests,
      spelled_listTest (hf rfl)]
    simp only [Sorting.direction, List.nil_append, spelled, Piece.text]
    simp [← String.toList_inj, placeholder_eq, hone, htwo]

def report (t : Table) (column : String) (segment : Option String) (s : Shape) : Report :=
  match s.mode with
  | .ranking => rankingReport t column segment s
  | .single | .compare => seriesReport t column segment s

/-- A statement is the text of its report if a series has banks and a breakdown has segments. -/
theorem text_eq {t : Table} {column : String} {segment : Option String} {s : Shape}
    (hb : s.mode ≠ .ranking → s.banks ≠ 0) (hf : segment.isSome = true → s.filters ≠ 0) :
    text t column segment s = (report t column segment s).text := by
  unfold text report
  cases hm : s.mode with
  | ranking => exact rankingText_eq hf
  | single | compare => exact seriesText_eq (hb (by rw [hm]; exact Mode.noConfusion)) hf

def places (segment : Option String) (s : Shape) : Nat :=
  match s.mode with
  | .ranking => 2 + (if s.banks ≠ 0 then s.banks else if s.leavesOutSystem then 1 else 0) +
      (if segment.isSome then s.filters else 0) + 1
  | .single | .compare => s.banks + (if segment.isSome then s.filters else 0) + 2

theorem holes_listTest {column : String} {first count : Nat} (h : count ≠ 0) :
    (listTest column first count).holes = List.range' first count := by
  obtain ⟨count, rfl⟩ := Nat.exists_eq_succ_of_ne_zero h
  rfl

theorem holes_seriesReport {t : Table} {column : String} {segment : Option String} {s : Shape}
    (hb : s.banks ≠ 0) (hf : segment.isSome = true → s.filters ≠ 0) :
    (seriesReport t column segment s).holes =
      List.range' 1 (s.banks + (if segment.isSome then s.filters else 0) + 2) := by
  have htest : (if s.mode = .single ∧ s.banks = 1 then Test.equals t.bankColumn 1
      else listTest t.bankColumn 1 s.banks).holes = List.range' 1 s.banks := by
    split
    · rename_i hm
      rw [hm.2]
      rfl
    · exact holes_listTest hb
  unfold seriesReport
  rw [← List.range'_append_1, ← List.range'_append_1]
  simp only [Report.holes, List.flatMap_cons, List.flatMap_append, htest, List.flatMap_nil,
    List.append_nil, Option.toList_none, List.append_assoc]
  congr 1
  cases segment with
  | none =>
    simp only [Nat.add_comm 1]
    rfl
  | some g =>
    simp only [Option.toList_some, List.map_cons, List.map_nil, List.flatMap_cons, List.flatMap_nil,
      List.append_nil, holes_listTest (hf rfl), Option.isSome_some, if_true, Nat.add_comm 1]
    rfl

theorem holes_rankingReport {t : Table} {column : String} {segment : Option String} {s : Shape}
    (hf : segment.isSome = true → s.filters ≠ 0) :
    (rankingReport t column segment s).holes =
      List.range' 1 (2 + (if s.banks ≠ 0 then s.banks else if s.leavesOutSystem then 1 else 0) +
        (if segment.isSome then s.filters else 0) + 1) := by
  have htests : (if s.banks ≠ 0 then [listTest t.bankColumn 3 s.banks]
      else if s.leavesOutSystem then [Test.differs t.bankColumn 3] else []).flatMap Test.holes =
        List.range' 3 (if s.banks ≠ 0 then s.banks else if s.leavesOutSystem then 1 else 0) := by
    by_cases hb : s.banks ≠ 0
    · simp only [if_pos hb, List.flatMap_cons, List.flatMap_nil, List.append_nil, holes_listTest hb]
    · cases s.leavesOutSystem with
      | _ => simp [hb, Test.holes]
  unfold rankingReport
  rw [← List.range'_append_1, ← List.range'_append_1, ← List.range'_append_1]
  simp only [Report.holes, List.flatMap_cons, List.flatMap_append, htests, Option.toList_some,
    List.append_assoc]
  generalize (if s.banks ≠ 0 then s.banks else if s.leavesOutSystem then 1 else 0) = left
  have hleft : 1 + (2 + left) = 3 + left := by omega
  have hall (count : Nat) : 1 + (2 + left + count) = 3 + left + count := by omega
  simp only [hleft, hall]
  cases segment with
  | none => rfl
  | some g =>
    simp only [Option.toList_some, List.map_cons, List.map_nil, List.flatMap_cons, List.flatMap_nil,
      List.append_nil, holes_listTest (hf rfl), Option.isSome_some, if_true]
    rfl

/-- The placeholders of a statement are numbered from one on without a gap. -/
theorem holes_report {t : Table} {column : String} {segment : Option String} {s : Shape}
    (hb : s.mode ≠ .ranking → s.banks ≠ 0) (hf : segment.isSome = true → s.filters ≠ 0) :
    (report t column segment s).holes = List.range' 1 (places segment s) := by
  unfold report places
  cases hm : s.mode with
  | ranking => exact holes_rankingReport hf
  | single | compare => exact holes_seriesReport (hb (by rw [hm]; exact Mode.noConfusion)) hf

end BankQuery.Generation
