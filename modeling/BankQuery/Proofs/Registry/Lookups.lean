import BankQuery.Proofs.Registry.Consistency

/-!
# Looking up entries by their names

A name is looked up among entries that stand in an order, and the first that has it is found. So an
entry is found by its own name if and only if no other entry has that name. The check of a registry
tells banks and metrics apart, and neither filters nor tables: `Registry.findsEach_of_check`.
-/

namespace BankQuery

section Entries

variable {α : Type} {name : α → String} {entries : List α}

def firstCalled? (name : α → String) (entries : List α) (wanted : String) : Option α :=
  entries.find? fun e => Text.sameAscii (name e) wanted

/-- Each entry is what its own name is looked up to. -/
def FindsEach (name : α → String) (entries : List α) (find? : String → Option α) : Prop :=
  ∀ e ∈ entries, find? (name e) = some e

def NamedApart (name : α → String) (entries : List α) : Prop :=
  entries.Pairwise fun a b => Text.sameAscii (name a) (name b) = false

def ToldByName (name : α → String) (entries : List α) : Prop :=
  ∀ a ∈ entries, ∀ b ∈ entries, Text.sameAscii (name a) (name b) = true → a = b

instance [DecidableEq α] (name : α → String) (entries : List α) :
    Decidable (ToldByName name entries) :=
  inferInstanceAs (Decidable
    (∀ a ∈ entries, ∀ b ∈ entries, Text.sameAscii (name a) (name b) = true → a = b))

theorem namedApart_of_upper (h : (entries.map fun e => Text.upper (name e)).Nodup) :
    NamedApart name entries := by
  refine (List.pairwise_map.mp h).imp fun {a b} hne => ?_
  exact Bool.eq_false_iff.mpr fun hs => hne (Text.upper_eq_of_sameAscii hs)

theorem toldByName_of_upper (h : (entries.map fun e => Text.upper (name e)).Nodup) :
    ToldByName name entries := fun _ ha _ hb hs =>
  List.inj_on_of_nodup_map h ha hb (Text.upper_eq_of_sameAscii hs)

theorem firstCalled?_congr {wanted wanted' : String} (h : Text.sameAscii wanted wanted' = true) :
    firstCalled? name entries wanted = firstCalled? name entries wanted' := by
  simp only [firstCalled?, Text.sameAscii, Text.sameAscii_iff.mp h]

theorem findsEach_iff :
    FindsEach name entries (firstCalled? name entries) ↔ ToldByName name entries := by
  constructor
  · intro h a ha b hb hs
    exact Option.some.inj ((h a ha).symm.trans ((firstCalled?_congr hs).trans (h b hb)))
  · intro h e he
    obtain ⟨x, hx⟩ : ∃ x, firstCalled? name entries (name e) = some x :=
      Option.isSome_iff_exists.mp (List.find?_isSome.mpr ⟨e, he, Text.sameAscii_refl (name e)⟩)
    have hs : Text.sameAscii (name x) (name e) = true :=
      List.find?_some (p := fun y => Text.sameAscii (name y) (name e)) hx
    rw [hx, h x (List.mem_of_find?_eq_some hx) e he hs]

end Entries

namespace Registry

/-- In a registry that passes its check no two banks and no two metrics have one identifier, and
each is found by its own. The filters are if and only if one identifier is of one filter, and the
tables if and only if one name is of one table. -/
theorem findsEach_of_check (r : Registry) (h : r.check = .ok ()) :
    (NamedApart Bank.id r.banks ∧ FindsEach Bank.id r.banks r.bank?) ∧
    (NamedApart Metric.code r.metrics ∧ FindsEach Metric.code r.metrics r.metric?) ∧
    (FindsEach SegmentFilter.id r.filters r.filter? ↔ ToldByName SegmentFilter.id r.filters) ∧
    (FindsEach Table.name r.schema.tables r.schema.table? ↔
      ToldByName Table.name r.schema.tables) := by
  have hr := check_eq_ok_iff.mp h
  exact ⟨⟨namedApart_of_upper hr.banks, findsEach_iff.mpr (toldByName_of_upper hr.banks)⟩,
    ⟨namedApart_of_upper hr.metrics, findsEach_iff.mpr (toldByName_of_upper hr.metrics)⟩,
    findsEach_iff, findsEach_iff⟩

def namedTwice : Registry where
  banks := [{ id := "NORTE", displayName := "Norte" }, { id := "SUR", displayName := "Sur" }]
  metrics := [{
    code := "MORA"
    displayName := "Mora"
    description := ""
    column := "mora"
    unit := .ratio }]
  filters := [{ id := "Consumo", displayName := "Consumo" },
    { id := "consumo", displayName := "Consumo sin tarjeta" }]
  schema.tables := [{
      name := "kpis"
      columns := [{ name := "mora", dataType := "double precision" }]
      timeColumn := "mes"
      bankColumn := "banco" },
    { name := "segmentos"
      columns := [{ name := "mora", dataType := "double precision" }]
      timeColumn := "mes"
      bankColumn := "banco"
      segmentColumn := some "segmento" },
    { name := "KPIS"
      columns := [{ name := "saldo", dataType := "double precision" }]
      timeColumn := "mes"
      bankColumn := "banco" }]
  schema.primaryTable := "kpis"
  schema.segmentTable := some "segmentos"

theorem findsEach_of_check_namedTwice : namedTwice.check = .ok () ∧
    FindsEach Bank.id namedTwice.banks namedTwice.bank? ∧
    FindsEach Metric.code namedTwice.metrics namedTwice.metric? ∧
    ¬ FindsEach SegmentFilter.id namedTwice.filters namedTwice.filter? ∧
    ¬ FindsEach Table.name namedTwice.schema.tables namedTwice.schema.table? := by
  have hc : namedTwice.check = .ok () := by decide +kernel
  obtain ⟨⟨-, hbanks⟩, ⟨-, hmetrics⟩, hfilters, htables⟩ := findsEach_of_check namedTwice hc
  exact ⟨hc, hbanks, hmetrics, fun h => absurd (hfilters.mp h) (by decide),
    fun h => absurd (htables.mp h) (by decide)⟩

/-- The check lets an entry through that its own name does not find. -/
theorem check_hides_entries : namedTwice.check = .ok () ∧
    (∃ early late, namedTwice.filters = [early, late] ∧
      namedTwice.filter? late.id = some early ∧ early ≠ late) ∧
    ∃ early other late, namedTwice.schema.tables = [early, other, late] ∧
      namedTwice.schema.table? late.name = some early ∧ early ≠ late :=
  ⟨by decide +kernel, ⟨_, _, rfl, by decide, by decide⟩, _, _, _, rfl, by decide, by decide⟩

end Registry

end BankQuery
