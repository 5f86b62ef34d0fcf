import BankQuery.Candidate.Generation
import BankQuery.Proofs.Registry.Consistency
import BankQuery.Proofs.Retrieval.Contents
import BankQuery.Registry.Standard

/-!
# Context from a registry's own corpus

In a schema of two layers there is a table without segments and at most one with segments, so that a
question leaves no choice of the table. The definitions in the corpus name the column of the metric
that they define. `Candidate.generate_retrieved` says that context from such a corpus therefore
changes no candidate: with it and without it there is the same candidate or the same fault.
-/

namespace BankQuery

/-- There is a primary table without segments, and any other table is the segment table. -/
structure Schema.IsLayered (s : Schema) : Prop where
  primary : ∃ t, s.primary? = some t ∧ t.segmentColumn = none
  tables : ∀ t ∈ s.tables,
    s.primary? = some t ∨ s.segments? = some t ∧ t.segmentColumn.isSome = true

/-- Each document of the store is one of the corpus of the registry, in the same collection. -/
def Store.HoldsOnly (s : Store) (r : Registry) : Prop :=
  ∀ collection, ∀ e ∈ s.documents collection, (collection, e.document) ∈ Corpus.documents r

namespace Store

/-- A document that is there after another was added was there before, or is the one added. -/
theorem mem_documents_add {s s' : Store} {collection other : String} {e x : Entry}
    (h : s.add collection e = .ok s') (hx : x ∈ s'.documents other) :
    x ∈ s.documents other ∨ other = collection ∧ x = e := by
  rw [documents_add h] at hx
  by_cases ho : other = collection
  · rw [if_pos ho, place, List.mem_append, List.mem_filter] at hx
    rcases hx with hx | hx
    · exact .inl hx.1
    · exact .inr ⟨ho, List.mem_singleton.mp hx⟩
  · rw [if_neg ho] at hx
    exact .inl hx

/-- What a search finds are documents of the collection with the wanted metadata. -/
theorem mem_of_search {s : Store} {collection : String} {vector : Embedding} {wanted : Metadata}
    {limit : Nat} {hits : List Snippet} (h : s.search collection vector wanted limit = .ok hits)
    {x : Snippet} (hx : x ∈ hits) :
    ∃ e ∈ s.documents collection, e.document.hasAll wanted = true ∧
      x.metadata = e.document.metadata := by
  unfold search at h
  split at h
  · cases h
  · cases h
    have hx := (sortBy_perm _ _).mem_iff.mp (List.mem_of_mem_take hx)
    obtain ⟨e, he, rfl⟩ := List.mem_map.mp hx
    obtain ⟨hm, hw⟩ := List.mem_filter.mp he
    exact ⟨e, hm, hw, rfl⟩

end Store

namespace Corpus

theorem holdsOnly_seedFrom {r : Registry} (embed : String → Embedding)
    {docs : List (String × Document)} (hd : ∀ d ∈ docs, d ∈ documents r) {s : Store}
    (hs : s.HoldsOnly r) : (seedFrom embed s docs).HoldsOnly r := by
  induction docs generalizing s with
  | nil => exact hs
  | cons d rest ih =>
    obtain ⟨collection, d⟩ := d
    unfold seedFrom
    cases ha : s.add collection ⟨d, embed d.text⟩ with
    | error fault => exact hs
    | ok s' =>
      refine ih (fun d' hd' => hd d' (List.mem_cons_of_mem _ hd')) fun other x hx => ?_
      rcases Store.mem_documents_add ha hx with hx | ⟨rfl, rfl⟩
      · exact hs other x hx
      · exact hd _ List.mem_cons_self

theorem holdsOnly_seeded (dimension : Nat) (embed : String → Embedding) (r : Registry) :
    (seeded dimension embed r).HoldsOnly r :=
  holdsOnly_seedFrom embed (fun _ hd => hd) fun _ _ hx => by cases hx

/-- The documents of the second collection define the metrics. -/
theorem exists_of_mem_metricCollection {r : Registry} {d : Document}
    (h : (metricCollection, d) ∈ documents r) : ∃ m ∈ r.metrics, d = metricDocument m := by
  have hschema : metricCollection ≠ schemaCollection := by decide
  have hexample : metricCollection ≠ exampleCollection := by decide
  simp only [documents, List.mem_append, List.mem_flatMap, List.mem_cons, List.mem_map,
    Prod.mk.injEq] at h
  rcases h with ⟨t, -, ⟨hn, -⟩ | ⟨c, -, hn, -⟩⟩ | ⟨m, hm, ⟨-, rfl⟩ | ⟨e, -, hn, -⟩⟩
  · exact absurd hn hschema
  · exact absurd hn.symm hschema
  · exact ⟨m, hm, rfl⟩
  · exact absurd hn.symm hexample

end Corpus

/-- The definitions in the context are those that the corpus of the registry gives. -/
def Context.Defines (r : Registry) (c : Context) : Prop :=
  ∀ x ∈ c.metrics, ∃ m ∈ r.metrics, x.metadata = (Corpus.metricDocument m).metadata

theorem Retriever.mem_of_ranked {t : Retriever} {collection : String} {vector : Embedding}
    {wanted : Metadata} {x : Snippet} (hx : x ∈ found (t.ranked collection vector wanted)) :
    ∃ hits, t.search collection vector wanted t.limit = .ok hits ∧ x ∈ hits := by
  unfold ranked at hx
  cases hh : t.search collection vector wanted t.limit with
  | error fault =>
    rw [hh] at hx
    cases hx
  | ok hits =>
    rw [hh] at hx
    have hx := (sortBy_perm _ _).mem_iff.mp (List.mem_of_mem_take hx)
    exact ⟨hits, rfl, (List.mem_filter.mp hx).1⟩

theorem Context.defines_retrieve {r : Registry} {s : Store} (hs : s.HoldsOnly r)
    (embed : String → Option Embedding) (limit : Nat) (least : Float32) (q : Question)
    (text : String) : (Retriever.retrieve ⟨embed, s.search, limit, least⟩ q text).Defines r := by
  intro x hx
  unfold Retriever.retrieve at hx
  split at hx
  · cases hx
  · obtain ⟨hits, hh, hx⟩ := Retriever.mem_of_ranked hx
    obtain ⟨e, he, -, hd⟩ := Store.mem_of_search hh hx
    obtain ⟨m, hm, hdoc⟩ := Corpus.exists_of_mem_metricCollection (hs _ e he)
    exact ⟨m, hm, hd.trans (congrArg Document.metadata hdoc)⟩

namespace Generation

variable {r : Registry} {c : Context} {q : Question} {m : Metric}

/-- Of the tables that a layered schema has, the question fits its own only. -/
theorem contextTable?_or (hl : r.schema.IsLayered) (c : Context) (q : Question) (m : Metric) :
    (contextTable? r c q m).or (defaultTable? r q) = defaultTable? r q := by
  cases ht : contextTable? r c q m with
  | none => rfl
  | some t =>
    unfold contextTable? at ht
    obtain ⟨name, -, hn⟩ := List.mem_filterMap.mp (List.mem_of_find?_eq_some ht)
    have hp := List.find?_some ht
    rw [Bool.and_eq_true, beq_iff_eq] at hp
    have hsegment : t.segmentColumn.isSome = !q.filters.isEmpty := hp.2
    rw [Option.some_or, defaultTable?]
    rcases hl.tables t (List.mem_of_find?_eq_some hn) with hprimary | ⟨hsegments, hs⟩
    · obtain ⟨t', ht', hnone⟩ := hl.primary
      rw [hprimary] at ht'
      cases ht'
      rw [hnone, Option.isSome_none, Eq.comm, Bool.not_eq_false'] at hsegment
      rw [if_pos hsegment, hprimary]
    · rw [hs, Eq.comm, Bool.not_eq_true'] at hsegment
      rw [if_neg (by simp [hsegment]), hsegments]

/-- A definition that the corpus gives for the metric names its column. -/
theorem contextColumn?_getD (hn : r.metricCodes.Nodup) (hc : c.Defines r) (hm : m ∈ r.metrics)
    (t : Table) : (contextColumn? c m t).getD m.column = m.column := by
  cases hcol : contextColumn? c m t with
  | none => rfl
  | some column =>
    unfold contextColumn? at hcol
    obtain ⟨x, hx, hcolumn⟩ := List.mem_filterMap.mp (List.mem_of_find?_eq_some hcol)
    obtain ⟨hx, hcode⟩ := List.mem_filter.mp hx
    obtain ⟨m', hm', hmeta⟩ := hc x hx
    rw [Snippet.meta?, hmeta, beq_iff_eq] at hcode
    rw [Snippet.meta?, hmeta] at hcolumn
    have hsame : m' = m := List.inj_on_of_nodup_map hn hm' hm (Option.some.inj hcode)
    rw [hsame] at hcolumn
    exact (Option.some.inj hcolumn).symm

theorem source?_of_defines (hl : r.schema.IsLayered) (hn : r.metricCodes.Nodup)
    (hc : c.Defines r) (hm : m ∈ r.metrics) (q : Question) (afterRejection : Bool) :
    source? r c q m afterRejection = (defaultTable? r q).map fun t => (t, m.column) := by
  unfold source?
  rw [contextTable?_or hl]
  simp only [contextColumn?_getD hn hc hm, ite_self]

end Generation

open Generation in
/-- Definitions from the corpus leave a candidate as it is without any. -/
theorem Candidate.generate_of_defines {r : Registry} (hl : r.schema.IsLayered)
    (hn : r.metricCodes.Nodup) {c c' : Context} (hc : c.Defines r) (hc' : c'.Defines r)
    (options : Options) (q : Question) (rejection : Option Rejection) :
    Candidate.generate options r q c rejection = Candidate.generate options r q c' rejection := by
  unfold Candidate.generate
  dsimp only
  cases hm : r.metric? (q.metric.getD "") with
  | none => rfl
  | some m =>
    have hmem : m ∈ r.metrics := List.mem_of_find?_eq_some hm
    simp only [source?_of_defines hl hn hc hmem, source?_of_defines hl hn hc' hmem]

/-- Whatever is asked, and however texts are embedded and hits chosen, context from the corpus of
the registry gives the candidate or the fault that there is without context. -/
theorem Candidate.generate_retrieved {r : Registry} (hr : r.check = .ok ())
    (hl : r.schema.IsLayered) {s : Store} (hs : s.HoldsOnly r)
    (embed : String → Option Embedding) (limit : Nat) (least : Float32)
    (options : Generation.Options) (q : Question) (text : String)
    (rejection : Option Rejection) :
    Candidate.generate options r q (Retriever.retrieve ⟨embed, s.search, limit, least⟩ q text)
        rejection = Candidate.generate options r q Context.empty rejection ∧
      Candidate.generate options r q (Retriever.retrieve ⟨embed, s.search, limit, least⟩ q text)
        rejection = Candidate.generate options r q Context.unavailable rejection := by
  have hn := Registry.nodup_metricCodes hr
  have hc := Context.defines_retrieve hs embed limit least q text
  have hempty : Context.empty.Defines r := fun _ hx => by cases hx
  have hunavailable : Context.unavailable.Defines r := fun _ hx => by cases hx
  exact ⟨generate_of_defines hl hn hc hempty options q rejection,
    generate_of_defines hl hn hc hunavailable options q rejection⟩

theorem Registry.isLayered_standard : standard.schema.IsLayered where
  primary := ⟨standardPrimary, by decide, rfl⟩
  tables := by decide

def segmentQuestion : Question where
  metric := some "IMOR"
  banks := ["INVEX", "SYSTEM"]
  range := ⟨⟨2019, 4, 1, by decide, by decide, by decide⟩,
    ⟨2019, 9, 1, by decide, by decide, by decide⟩⟩
  filters := ["consumo"]
  mode := .compare

def standardStore : Store := Corpus.seeded 256 (Embedding.ofText 256) Registry.standard

theorem Candidate.generate_retrieved_standard :
    Registry.standard.check = .ok () ∧ Registry.standard.schema.IsLayered ∧
      standardStore.HoldsOnly Registry.standard ∧
    Candidate.generate {} Registry.standard segmentQuestion
        (Retriever.retrieve ⟨fun text => some (Embedding.ofText 256 text), standardStore.search, 5,
          0.2⟩ segmentQuestion "Compara IMOR de INVEX vs Sistema en consumo") none =
      Candidate.generate {} Registry.standard segmentQuestion Context.empty none ∧
    Candidate.generate {} Registry.standard segmentQuestion
        (Retriever.retrieve ⟨fun text => some (Embedding.ofText 256 text), standardStore.search, 5,
          0.2⟩ segmentQuestion "Compara IMOR de INVEX vs Sistema en consumo") none =
      Candidate.generate {} Registry.standard segmentQuestion Context.unavailable none := by
  have hr : Registry.standard.check = .ok () := by decide +kernel
  have hs := Corpus.holdsOnly_seeded 256 (Embedding.ofText 256) Registry.standard
  exact ⟨hr, Registry.isLayered_standard, hs,
    generate_retrieved hr Registry.isLayered_standard hs _ 5 0.2 {} segmentQuestion _ none⟩

end BankQuery
