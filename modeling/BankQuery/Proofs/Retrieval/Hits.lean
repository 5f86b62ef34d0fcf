import BankQuery.Proofs.Number.Order
import BankQuery.Proofs.Sorting
import BankQuery.Retrieval.Search
import Mathlib.Data.List.Nodup

/-!
# The hits of a search

`Store.AreHits` says what the hits of a search have to be, and leaves no choice of them: the first
of the wanted documents, the higher score first and of equal scores the earlier document. Where every
score is a number a search finds just these (`Store.search_eq_ok_iff`). What is retrieved is cut
twice and ranked twice, and is still all that is relevant and no more: `Retriever.retrieve_exact`.
-/

namespace BankQuery

open Number

namespace Store

def score (vector : Embedding) (e : Entry) : Float32 := Embedding.cosine vector e.embedding

/-- The order of entries with their places in the collection: the higher score first, and where
neither is higher the earlier place. -/
def Precedes (vector : Embedding) (a b : Entry × Nat) : Prop :=
  score vector b.1 < score vector a.1 ∨ ¬ score vector a.1 < score vector b.1 ∧ a.2 < b.2

/-- The hits are the first `limit` of the chosen entries, ranked. -/
def AreHits (vector : Embedding) (stored : List Entry) (Chosen : Entry → Prop) (limit : Nat)
    (hits : List Snippet) : Prop :=
  ∃ order : List (Entry × Nat), (∀ e i, (e, i) ∈ order ↔ stored[i]? = some e ∧ Chosen e) ∧
    order.Pairwise (Precedes vector) ∧ hits = (order.take limit).map fun p => snippet vector p.1

section Precedes

variable {vector : Embedding} {a b : Entry × Nat}

theorem Precedes.not_lt (h : Precedes vector a b) : ¬ score vector a.1 < score vector b.1 := by
  rcases h with hlt | ⟨hle, -⟩
  · exact single_lt_asymm hlt
  · exact hle

theorem Precedes.asymm (hab : Precedes vector a b) : ¬ Precedes vector b a := by
  rintro (hlt | ⟨hle, hba⟩)
  · exact hab.not_lt hlt
  · rcases hab with hlt | ⟨-, hab⟩
    · exact hle hlt
    · exact Nat.lt_asymm hab hba

theorem Precedes.of_rank (ha : (score vector a.1).isNaN = false)
    (hb : (score vector b.1).isNaN = false)
    (h : singleRank (score vector b.1) < singleRank (score vector a.1) ∨
      singleRank (score vector a.1) = singleRank (score vector b.1) ∧ a.2 < b.2) :
    Precedes vector a b := by
  rcases h with hlt | ⟨heq, hplace⟩
  · exact .inl ((single_lt_iff hb ha).mpr hlt)
  · exact .inr ⟨fun hlt => heq.not_lt ((single_lt_iff ha hb).mp hlt), hplace⟩

/-- An entry in front of a relevant one is relevant. -/
theorem Precedes.le_score {least : Float32} (h : Precedes vector a b)
    (ha : (score vector a.1).isNaN = false) (hle : least ≤ score vector b.1) :
    least ≤ score vector a.1 := by
  obtain ⟨hl, hb⟩ := isNaN_of_single_le hle
  have hab : singleRank (score vector b.1) ≤ singleRank (score vector a.1) :=
    le_of_not_gt fun hlt => h.not_lt ((single_lt_iff ha hb).mpr hlt)
  exact (single_le_iff hl ha).mpr (((single_le_iff hl hb).mp hle).trans hab)

end Precedes

namespace AreHits

variable {vector : Embedding} {stored : List Entry} {Chosen Chosen' : Entry → Prop} {limit : Nat}
  {hits hits' : List Snippet}

theorem congr (h : AreHits vector stored Chosen limit hits) (hc : ∀ e, Chosen e ↔ Chosen' e) :
    AreHits vector stored Chosen' limit hits := by
  obtain ⟨order, hmem, hsorted, hhits⟩ := h
  exact ⟨order, fun e i => (hmem e i).trans (and_congr_right fun _ => hc e), hsorted, hhits⟩

theorem unique (h : AreHits vector stored Chosen limit hits)
    (h' : AreHits vector stored Chosen limit hits') : hits = hits' := by
  obtain ⟨order, hmem, hsorted, rfl⟩ := h
  obtain ⟨order', hmem', hsorted', rfl⟩ := h'
  have hnodup {o : List (Entry × Nat)} (ho : o.Pairwise (Precedes vector)) : o.Nodup := by
    refine ho.imp fun {a b} hab => ?_
    rintro rfl
    exact hab.asymm hab
  have hperm : order.Perm order' := (List.perm_ext_iff_of_nodup (hnodup hsorted)
    (hnodup hsorted')).mpr fun p => (hmem p.1 p.2).trans (hmem' p.1 p.2).symm
  rw [hperm.eq_of_pairwise (fun a b _ _ hab hba => absurd hba hab.asymm) hsorted hsorted']

end AreHits

section Ranking

variable {vector : Embedding} {stored : List Entry} {chosen : Entry → Bool}

def ranking (vector : Embedding) (stored : List Entry) (chosen : Entry → Bool) :
    List (Entry × Nat) :=
  sortBy (fun a b => ranksBefore (snippet vector a.1) (snippet vector b.1))
    (stored.zipIdx.filter fun p => chosen p.1)

theorem mem_ranking {e : Entry} {i : Nat} :
    (e, i) ∈ ranking vector stored chosen ↔ stored[i]? = some e ∧ chosen e = true := by
  rw [ranking, (sortBy_perm _ _).mem_iff, List.mem_filter, List.mk_mem_zipIdx_iff_getElem?]

theorem isNaN_of_mem_ranking
    (hn : ∀ e ∈ stored, chosen e = true → (score vector e).isNaN = false) {p : Entry × Nat}
    (hp : p ∈ ranking vector stored chosen) : (score vector p.1).isNaN = false := by
  obtain ⟨hstored, hchosen⟩ := mem_ranking.mp hp
  exact hn p.1 (List.mem_of_getElem? hstored) hchosen

theorem pairwise_ranking (hn : ∀ e ∈ stored, chosen e = true → (score vector e).isNaN = false) :
    (ranking vector stored chosen).Pairwise (Precedes vector) := by
  have hplaces : (stored.zipIdx.filter fun p => chosen p.1).Pairwise fun a b => a.2 < b.2 := by
    refine List.Pairwise.filter _ (List.pairwise_map.mp ?_)
    rw [List.zipIdx_map_snd]
    exact List.pairwise_lt_range'
  -- Scores that are numbers compare as their ranks, here the greater first.
  have hless : ∀ a ∈ stored.zipIdx.filter fun p => chosen p.1,
      ∀ b ∈ stored.zipIdx.filter fun p => chosen p.1,
      ranksBefore (snippet vector a.1) (snippet vector b.1) = true ↔
        OrderDual.toDual (singleRank (score vector a.1)) <
          OrderDual.toDual (singleRank (score vector b.1)) := by
    intro a ha b hb
    have ha := isNaN_of_mem_ranking hn ((sortBy_perm _ _).mem_iff.mpr ha)
    have hb := isNaN_of_mem_ranking hn ((sortBy_perm _ _).mem_iff.mpr hb)
    exact decide_eq_true_iff.trans (single_lt_iff hb ha)
  refine (pairwise_sortBy_key_stable hless hplaces).imp_of_mem fun ha hb h => ?_
  exact .of_rank (isNaN_of_mem_ranking hn ha) (isNaN_of_mem_ranking hn hb) h

theorem sortBy_snippet (vector : Embedding) (stored : List Entry) (chosen : Entry → Bool) :
    sortBy ranksBefore ((stored.filter chosen).map (snippet vector)) =
      (ranking vector stored chosen).map fun p => snippet vector p.1 := by
  have hfst : stored.filter chosen = (stored.zipIdx.filter fun p => chosen p.1).map Prod.fst := by
    conv_lhs => rw [← List.zipIdx_map_fst 0 stored]
    exact List.filter_map
  rw [hfst, List.map_map, sortBy_map]
  rfl

end Ranking

theorem hasAll_iff {d : Document} {wanted : Metadata} :
    d.hasAll wanted = true ↔ ∀ w ∈ wanted, d.metadata.lookup w.1 = some w.2 := by
  simp only [Document.hasAll, List.all_eq_true, beq_iff_eq]

variable {s : Store} {collection : String} {vector : Embedding} {wanted : Metadata} {limit : Nat}

def firstHits (s : Store) (collection : String) (vector : Embedding) (wanted : Metadata)
    (limit : Nat) : List Snippet :=
  ((ranking vector (s.documents collection) fun e => e.document.hasAll wanted).take limit).map
    fun p => snippet vector p.1

theorem search_eq (hd : vector.length = s.dimension) :
    s.search collection vector wanted limit = .ok (s.firstHits collection vector wanted limit) := by
  rw [search, if_neg (not_not.mpr hd)]
  dsimp only
  rw [sortBy_snippet, firstHits, List.map_take]

/-- Where every score is a number, a search finds the first of the documents that have the wanted
metadata, ranked. -/
theorem search_eq_ok_iff (hd : vector.length = s.dimension)
    (hn : ∀ e ∈ s.documents collection, e.document.hasAll wanted = true →
      (score vector e).isNaN = false) {hits : List Snippet} :
    s.search collection vector wanted limit = .ok hits ↔
      AreHits vector (s.documents collection)
        (fun e => ∀ w ∈ wanted, e.document.metadata.lookup w.1 = some w.2) limit hits := by
  have htop : AreHits vector (s.documents collection)
      (fun e => ∀ w ∈ wanted, e.document.metadata.lookup w.1 = some w.2) limit
      (s.firstHits collection vector wanted limit) :=
    ⟨_, fun e i => mem_ranking.trans (and_congr_right fun _ => hasAll_iff), pairwise_ranking hn,
      rfl⟩
  rw [search_eq hd, Except.ok.injEq]
  exact ⟨fun h => h ▸ htop, htop.unique⟩

end Store

namespace Retriever

open Store

/-- Hits that were cut and ranked are cut to the relevant ones as if they had not been cut. -/
theorem rank_take {t : Retriever} {vector : Embedding} {order : List (Entry × Nat)}
    (hsorted : order.Pairwise (Precedes vector))
    (hn : ∀ p ∈ order, (score vector p.1).isNaN = false) :
    t.rank ((order.take t.limit).map fun p => snippet vector p.1) =
      ((order.filter fun p => t.least ≤ score vector p.1).take t.limit).map
        fun p => snippet vector p.1 := by
  -- What stands before a relevant hit is relevant, so that the first cut loses none.
  have hclosed : order.Pairwise fun a b =>
      decide (t.least ≤ score vector b.1) = true → decide (t.least ≤ score vector a.1) = true := by
    refine hsorted.imp_of_mem fun {a b} ha _ hab hb => ?_
    exact decide_eq_true (hab.le_score (hn a ha) (of_decide_eq_true hb))
  have hrelevant : ((order.take t.limit).map fun p => snippet vector p.1).filter
      (fun x => x.score ≥ t.least) = ((order.filter fun p => t.least ≤ score vector p.1).take
        t.limit).map fun p => snippet vector p.1 := by
    rw [List.filter_map, ← filter_take hclosed]
    rfl
  have hordered : (((order.filter fun p => t.least ≤ score vector p.1).take t.limit).map
      fun p => snippet vector p.1).Pairwise fun a b => ranksBefore b a = false := by
    refine List.pairwise_map.mpr (((hsorted.filter _).sublist (List.take_sublist _ _)).imp ?_)
    exact fun hab => decide_eq_false hab.not_lt
  rw [rank, hrelevant, sortBy_of_pairwise hordered, ← List.map_take, List.take_take, Nat.min_self]

/-- Unless a score is no number, the hits are all that is in scope and relevant, up to the limit. -/
def IsExact (t : Retriever) (vector : Embedding) (stored : List Entry) (Scope : Entry → Prop)
    (hits : List Snippet) : Prop :=
  (∀ e ∈ stored, Scope e → (score vector e).isNaN = false) →
    AreHits vector stored (fun e => Scope e ∧ t.least ≤ score vector e) t.limit hits

theorem IsExact.congr {t : Retriever} {vector : Embedding} {stored : List Entry}
    {Scope Scope' : Entry → Prop} {hits : List Snippet} (h : t.IsExact vector stored Scope hits)
    (hs : ∀ e, Scope e ↔ Scope' e) : t.IsExact vector stored Scope' hits := fun hn =>
  (h fun e he hscope => hn e he ((hs e).mp hscope)).congr fun e => and_congr_left fun _ => hs e

variable {t : Retriever} {s : Store} {vector : Embedding} {collection : String}
  {wanted : Metadata}

theorem isExact_rank : t.IsExact vector (s.documents collection)
    (fun e => ∀ w ∈ wanted, e.document.metadata.lookup w.1 = some w.2)
    (t.rank (s.firstHits collection vector wanted t.limit)) := by
  intro hn
  have hn : ∀ e ∈ s.documents collection, e.document.hasAll wanted = true →
      (score vector e).isNaN = false := fun e he hw => hn e he (hasAll_iff.mp hw)
  have hsorted := pairwise_ranking hn
  rw [firstHits, rank_take hsorted fun p hp => isNaN_of_mem_ranking hn hp]
  refine ⟨(ranking vector (s.documents collection) fun e => e.document.hasAll wanted).filter
    fun p => t.least ≤ score vector p.1, fun e i => ?_, hsorted.filter _, rfl⟩
  rw [List.mem_filter, mem_ranking, decide_eq_true_iff, and_assoc, hasAll_iff]

theorem ranked_eq_ok (hs : t.search = s.search) (hd : vector.length = s.dimension)
    (collection : String) (wanted : Metadata) : t.ranked collection vector wanted =
      .ok (t.rank (s.firstHits collection vector wanted t.limit)) := by
  rw [ranked, hs, search_eq hd]
  rfl

theorem ranked_eq_error (hs : t.search = s.search) (hd : vector.length ≠ s.dimension)
    (collection : String) (wanted : Metadata) : t.ranked collection vector wanted =
      .error (.queryDimension vector.length s.dimension) := by
  rw [ranked, hs, Store.search, if_pos hd, Except.map]

theorem forall_mem_metricFilter {q : Question} {d : Document} :
    (∀ w ∈ metricFilter q, d.metadata.lookup w.1 = some w.2) ↔
      ∀ m, q.metric = some m → d.metadata.lookup "metric" = some m := by
  unfold metricFilter
  cases q.metric <;> simp

/-- Retrieval from a store with an embedding of its dimension gives all documents of the schema, all
definitions of the metric that is asked for and all examples of the mode, each time those that are
relevant, the best first and up to the limit. With another dimension it gives nothing. -/
theorem retrieve_exact (s : Store) (embed : String → Embedding) (limit : Nat) (least : Float32)
    (q : Question) (text : String) :
    let t := ofStore s embed limit least
    ((embed text).length = s.dimension →
      t.IsExact (embed text) (s.documents Corpus.schemaCollection) (fun _ => True)
        (t.retrieve q text).schema ∧
      t.IsExact (embed text) (s.documents Corpus.metricCollection)
        (fun e => ∀ m, q.metric = some m → e.document.metadata.lookup "metric" = some m)
        (t.retrieve q text).metrics ∧
      t.IsExact (embed text) (s.documents Corpus.exampleCollection)
        (fun e => e.document.metadata.lookup "mode" = some q.mode.name)
        (t.retrieve q text).examples ∧
      (t.retrieve q text).degraded = false) ∧
    ((embed text).length ≠ s.dimension → t.retrieve q text = Context.unavailable) := by
  intro t
  have hs : t.search = s.search := rfl
  have hembed : t.embed text = some (embed text) := rfl
  refine ⟨fun hd => ?_, fun hd => ?_⟩
  · simp only [retrieve, hembed, ranked_eq_ok hs hd, found, failed, Bool.or_self]
    exact ⟨isExact_rank.congr fun e => by simp,
      isExact_rank.congr fun e => forall_mem_metricFilter,
      isExact_rank.congr fun e => by simp [exampleFilter], trivial⟩
  · simp only [retrieve, hembed, ranked_eq_error hs hd, found, failed, Bool.or_self,
      Context.unavailable]

/-- Four definitions of one metric and one of another, in two dimensions. The first two are equally
like the vector `[1, 0]`, the third is more like it, and the fourth is unlike it. -/
def rateStore : Store where
  dimension := 2
  collections := [(Corpus.schemaCollection, [⟨⟨"tabla", "Tabla de tasas", []⟩, [-1, 0]⟩]),
    (Corpus.metricCollection, [
      ⟨⟨"a", "Tasa activa", [("metric", "TASA")]⟩, [1, 1]⟩,
      ⟨⟨"b", "Tasa pasiva", [("metric", "TASA")]⟩, [2, -2]⟩,
      ⟨⟨"c", "Saldo", [("metric", "SALDO")]⟩, [1, 0]⟩,
      ⟨⟨"d", "Tasa", [("metric", "TASA")]⟩, [3, 1]⟩,
      ⟨⟨"e", "Tasa anual", [("metric", "TASA")]⟩, [0, 1]⟩])]

def rateQuestion : Question where
  metric := some "TASA"
  banks := ["INVEX"]
  range :=
    let march := (Date.ofParts? 2031 3 1).get (by decide)
    ⟨march, march⟩
  mode := .single

/-- Two of the three relevant definitions, the first of those that are equally like the question. -/
theorem retrieve_exact_rateStore :
    let t := ofStore rateStore (fun _ => [1, 0]) 2 0.5
    let c := t.retrieve rateQuestion "Tasa de INVEX"
    AreHits [1, 0] (rateStore.documents Corpus.metricCollection)
      (fun e => (∀ m, rateQuestion.metric = some m →
        e.document.metadata.lookup "metric" = some m) ∧ 0.5 ≤ score [1, 0] e) 2 c.metrics ∧
    c.metrics.map Snippet.text = ["Tasa", "Tasa activa"] ∧
    c.schema.map Snippet.text = [] ∧ c.degraded = false ∧
    (ofStore rateStore (fun _ => [1, 0, 0]) 2 0.5).retrieve rateQuestion "Tasa de INVEX" =
      Context.unavailable := by
  have hnumbers : ∀ e ∈ rateStore.documents Corpus.metricCollection,
      (score [1, 0] e).isNaN = false := by decide +kernel
  obtain ⟨-, hmetrics, -, hdegraded⟩ :=
    (retrieve_exact rateStore (fun _ => [1, 0]) 2 0.5 rateQuestion "Tasa de INVEX").1 rfl
  exact ⟨hmetrics fun e he _ => hnumbers e he, by decide +kernel, by decide +kernel, hdegraded,
    (retrieve_exact rateStore (fun _ => [1, 0, 0]) 2 0.5 rateQuestion "Tasa de INVEX").2
      (by decide)⟩

end Retriever

end BankQuery
