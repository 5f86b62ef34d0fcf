import BankQuery.Proofs.Json.Reading
import BankQuery.Question.Format

/-!
# Keys of questions

The key of a question is its compact text, from which the question is read back. So no two questions
have one key, whatever their names and dates are.
-/

namespace BankQuery

open Json

theorem Date.ofJson?_toJson (d : Date) : Date.ofJson? d.toJson = some d := d.read?_text

theorem DateRange.ofJson?_toJson (r : DateRange) : DateRange.ofJson? r.toJson = some r := by
  have hfields : fields [required "start_date", required "end_date"] r.toJson =
      some [some r.start.toJson, some r.stop.toJson] := rfl
  simp only [DateRange.ofJson?, hfields, need, Option.bind_eq_bind, Option.bind_some,
    Date.ofJson?_toJson]
  rfl

namespace Json

theorem list?_strings (texts : List String) : list? text? (strings texts) = some texts := by
  rw [strings, list?]
  induction texts with
  | nil => rfl
  | cons t texts ih =>
    rw [List.map_cons, List.mapM_cons, ih]
    rfl

theorem option?_ofOption {α : Type} {f : α → Json} {g : Json → Option α}
    (h : ∀ a, f a ≠ .null ∧ g (f a) = some a) (a : Option α) :
    option? g (ofOption f a) = some a := by
  cases a with
  | none => rfl
  | some a =>
    obtain ⟨hne, hg⟩ := h a
    rw [ofOption, option?]
    · rw [hg]
      rfl
    · exact hne

theorem uint32?_wordToJson (n : UInt32) : uint32? (wordToJson n) = some n := by
  have hn : n.toNat < 4294967296 := n.toNat_lt
  have hin : intIn? 0 4294967295 (wordToJson n) = some (n.toNat : Int) :=
    if_pos ⟨by omega, by omega⟩
  rw [uint32?, hin, Option.map_some, Int.toNat_natCast, UInt32.ofNat_toNat]

theorem reads_strings (texts : List String) : (strings texts).Reads := by
  refine reads_array fun i hi => ?_
  obtain ⟨t, -, rfl⟩ := List.mem_map.mp hi
  exact reads_string t

theorem reads_ofOption {α : Type} {f : α → Json} (h : ∀ a, (f a).Reads) (a : Option α) :
    (ofOption f a).Reads := by
  cases a with
  | none => exact reads_null
  | some a => exact h a

theorem reads_wordToJson (n : UInt32) : (wordToJson n).Reads :=
  reads_nat (Nat.lt_trans n.toNat_lt (by decide))

end Json

theorem DateRange.reads_toJson (r : DateRange) : r.toJson.Reads := by
  refine reads_object fun m hm => ?_
  rcases List.mem_cons.mp hm with rfl | hm
  · exact reads_string _
  · rw [List.mem_singleton.mp hm]
    exact reads_string _

namespace Question

theorem reads_toJson (q : Question) : q.toJson.Reads := by
  refine reads_object fun m hm => ?_
  simp only [List.mem_cons, List.not_mem_nil, or_false] at hm
  rcases hm with rfl | rfl | rfl | rfl | rfl | rfl | rfl
  · exact reads_ofOption reads_string q.metric
  · exact reads_strings q.banks
  · exact q.range.reads_toJson
  · exact reads_strings q.filters
  · exact reads_string _
  · exact reads_ofOption reads_wordToJson q.topN
  · exact reads_string _

theorem ofJson?_toJson (q : Question) : ofJson? q.toJson = some q := by
  have hfields : fields [defaulted "metric", defaulted "banks", required "time_range",
      defaulted "dimension_filters", required "comparison_mode", defaulted "top_n",
      defaulted "rank_order"] q.toJson =
      some [some (ofOption .string q.metric), some (strings q.banks), some q.range.toJson,
        some (strings q.filters), some (.string q.mode.name), some (ofOption wordToJson q.topN),
        some (.string q.order.name)] := rfl
  have hmetric := option?_ofOption (f := .string) (g := text?)
    (fun t => ⟨Json.noConfusion, rfl⟩) q.metric
  have htopN := option?_ofOption (f := wordToJson) (g := uint32?)
    (fun n => ⟨Json.noConfusion, uint32?_wordToJson n⟩) q.topN
  have hmode : choice? Mode.table (.string q.mode.name) = some q.mode := by
    cases q.mode with
    | single | compare | ranking => rfl
  have horder : choice? RankOrder.table (.string q.order.name) = some q.order := by
    cases q.order with
    | ascending | descending => rfl
  simp only [ofJson?, hfields, maybe, orElse, need, Option.bind_eq_bind, Option.bind_some, hmetric,
    htopN, list?_strings, DateRange.ofJson?_toJson, hmode, horder]
  rfl

/-- A question is read back from its key. -/
theorem ofJson?_key (q : Question) : (read? q.key).bind ofJson? = some q := by
  rw [key, q.reads_toJson.read?_write, Option.bind_some, ofJson?_toJson]

theorem key_inj {q q' : Question} : q.key = q'.key ↔ q = q' := by
  refine ⟨fun h => ?_, congrArg key⟩
  have hread := q'.ofJson?_key
  rw [← h, ofJson?_key] at hread
  exact Option.some.inj hread

end Question

end BankQuery
