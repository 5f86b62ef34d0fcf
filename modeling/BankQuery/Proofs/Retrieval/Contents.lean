import BankQuery.Proofs.Retrieval.Hits
import Mathlib.Data.List.Induction

/-!
# What a store holds

A new store is added to and searched in any order. `Store.IsLatest` compares a collection with the
entries that were added to it: of each identifier the last one, by the time of its addition. An
addition preserves this (`Store.IsLatest.place`), so a store holds it after any operations
(`Store.holds_after`), and searches what it then holds.
-/

namespace BankQuery.Store

inductive Operation where
  | add (collection : String) (e : Entry)
  | search (collection : String) (vector : Embedding) (wanted : Metadata) (limit : Nat)

/-- What an operation answers and the store after it. An addition answers without hits. -/
def perform (s : Store) : Operation → Except RetrievalFault (List Snippet) × Store
  | .add collection e =>
    match s.add collection e with
    | .ok s' => (.ok [], s')
    | .error fault => (.error fault, s)
  | .search collection vector wanted limit => (s.search collection vector wanted limit, s)

def after (s : Store) (ops : List Operation) : Store := ops.foldl (fun s op => (s.perform op).2) s

/-- The entry that the operation puts into the collection, unless it fails. -/
def Operation.adds (op : Operation) (s : Store) (collection : String) : List Entry :=
  match op with
  | .add name e => if name = collection ∧ (s.perform (.add name e)).1.isOk then [e] else []
  | .search .. => []

def added (collection : String) (s : Store) : List Operation → List Entry
  | [] => []
  | op :: ops => op.adds s collection ++ added collection (s.perform op).2 ops

/-- The entry was added at this time and none of its identifier was added later. -/
def IsLast (past : List Entry) (time : Nat) (e : Entry) : Prop :=
  past[time]? = some e ∧ ∀ x ∈ past.drop (time + 1), x.document.id ≠ e.document.id

/-- The documents are the last ones of their identifiers, by the time of their addition. -/
def IsLatest (past docs : List Entry) : Prop :=
  ∃ order : List (Entry × Nat), (∀ e time, (e, time) ∈ order ↔ IsLast past time e) ∧
    order.Pairwise (fun a b => a.2 < b.2) ∧ docs = order.map Prod.fst

section Latest

variable {past docs : List Entry} {e x : Entry} {time time' : Nat}

theorem IsLast.lt_length (h : IsLast past time e) : time < past.length :=
  (List.getElem?_eq_some_iff.mp h.1).1

theorem IsLast.le_time (h : IsLast past time e) (h' : IsLast past time' x)
    (hid : e.document.id = x.document.id) : time' ≤ time := by
  refine Nat.le_of_not_lt fun hlt => h.2 x ?_ hid.symm
  refine List.mem_of_getElem? (i := time' - (time + 1)) ?_
  rw [List.getElem?_drop, Nat.add_sub_cancel' hlt, h'.1]

theorem isLast_concat : IsLast (past ++ [e]) time x ↔
    IsLast past time x ∧ x.document.id ≠ e.document.id ∨ time = past.length ∧ x = e := by
  unfold IsLast
  -- A time before the last addition, the time of the last addition, and none.
  rcases Nat.lt_trichotomy time past.length with hlt | rfl | hgt
  · rw [List.getElem?_append_left hlt, List.drop_append_of_le_length hlt]
    simp [hlt.ne, or_imp, forall_and, and_assoc, eq_comm]
  · rw [List.getElem?_concat_length, List.drop_eq_nil_of_le (by simp)]
    simp [eq_comm]
  · rw [List.getElem?_eq_none (by rw [List.length_append]; exact hgt), List.getElem?_eq_none hgt.le]
    simp [hgt.ne']

theorem isLatest_nil : IsLatest [] [] :=
  ⟨[], fun e time => ⟨fun h => absurd h List.not_mem_nil, fun h => absurd h.lt_length (by simp)⟩,
    .nil, rfl⟩

/-- An addition moves its identifier to the end. -/
theorem IsLatest.place (h : IsLatest past docs) (e : Entry) :
    IsLatest (past ++ [e]) (place e docs) := by
  obtain ⟨order, hmem, htimes, rfl⟩ := h
  refine ⟨(order.filter fun p => p.1.document.id != e.document.id) ++ [(e, past.length)],
    fun x time => ?_, ?_, ?_⟩
  · rw [isLast_concat, ← hmem]
    simp only [List.mem_append, List.mem_filter, bne_iff_ne, List.mem_singleton, Prod.mk.injEq,
      and_comm (a := x = e)]
  · refine List.pairwise_append.mpr ⟨htimes.filter _, List.pairwise_singleton _ _, ?_⟩
    intro p hp p' hp'
    rw [List.mem_singleton.mp hp']
    exact ((hmem p.1 p.2).mp (List.mem_of_mem_filter hp)).lt_length
  · rw [Store.place, List.map_append, List.filter_map]
    rfl

theorem IsLatest.mem (h : IsLatest past docs) (hx : x ∈ docs) : x ∈ past := by
  obtain ⟨order, hmem, -, rfl⟩ := h
  obtain ⟨⟨y, time⟩, hp, rfl⟩ := List.mem_map.mp hx
  exact List.mem_of_getElem? ((hmem y time).mp hp).1

theorem IsLatest.nodup_ids (h : IsLatest past docs) : (docs.map (·.document.id)).Nodup := by
  obtain ⟨order, hmem, htimes, rfl⟩ := h
  rw [List.map_map]
  refine List.pairwise_map.mpr (htimes.imp_of_mem fun {a b} ha hb hlt hid => ?_)
  exact hlt.not_ge (((hmem a.1 a.2).mp ha).le_time ((hmem b.1 b.2).mp hb) hid)

/-- Every identifier that was added has a last entry. -/
theorem exists_isLast (he : e ∈ past) :
    ∃ time x, IsLast past time x ∧ x.document.id = e.document.id := by
  induction past using List.reverseRecOn with
  | nil => cases he
  | append_singleton past last ih =>
    by_cases hid : last.document.id = e.document.id
    · exact ⟨past.length, last, isLast_concat.mpr (.inr ⟨rfl, rfl⟩), hid⟩
    · rcases List.mem_append.mp he with he | he
      · obtain ⟨time, x, hx, hxid⟩ := ih he
        exact ⟨time, x, isLast_concat.mpr (.inl ⟨hx, fun h => hid (h.symm.trans hxid)⟩), hxid⟩
      · exact absurd (congrArg (·.document.id) (List.mem_singleton.mp he).symm) hid

theorem IsLatest.exists_mem_iff (h : IsLatest past docs) (id : String) :
    (∃ x ∈ docs, x.document.id = id) ↔ ∃ x ∈ past, x.document.id = id := by
  constructor
  · rintro ⟨x, hx, rfl⟩
    exact ⟨x, h.mem hx, rfl⟩
  · rintro ⟨e, he, rfl⟩
    obtain ⟨time, x, hx, hid⟩ := exists_isLast he
    obtain ⟨order, hmem, -, rfl⟩ := h
    exact ⟨x, List.mem_map.mpr ⟨(x, time), (hmem x time).mpr hx, rfl⟩, hid⟩

end Latest

section Operations

variable {s s' : Store} {collection : String} {e : Entry}

theorem lookup_change (f : List Entry → List Entry) (collection other : String)
    (collections : List (String × List Entry)) :
    (change f collection collections).lookup other =
      if other = collection then some (f ((collections.lookup collection).getD []))
      else collections.lookup other := by
  induction collections with
  | nil =>
    by_cases ho : other = collection
    · simp [change, ho]
    · simp [change, List.lookup_cons, ho, beq_eq_false_iff_ne.mpr ho]
  | cons entry rest ih =>
    obtain ⟨name, entries⟩ := entry
    unfold change
    by_cases hn : name = collection
    · subst hn
      by_cases ho : other = name
      · simp [ho]
      · simp [List.lookup_cons, ho, beq_eq_false_iff_ne.mpr ho]
    · have hcollection : (collection == name) = false :=
        beq_eq_false_iff_ne.mpr fun h => hn h.symm
      rw [if_neg hn]
      by_cases ho : other = name
      · have hne : other ≠ collection := fun h => hn (ho ▸ h)
        simp [ho, hn]
      · simp only [List.lookup_cons, beq_eq_false_iff_ne.mpr ho, hcollection]
        exact ih

theorem add_of_length_eq (h : e.embedding.length = s.dimension) : s.add collection e =
    .ok { s with collections := change (Store.place e) collection s.collections } :=
  if_neg (not_not.mpr h)

theorem add_of_length_ne (h : e.embedding.length ≠ s.dimension) :
    s.add collection e = .error (.documentDimension e.embedding.length s.dimension) :=
  if_pos h

theorem length_eq_of_add (h : s.add collection e = .ok s') :
    e.embedding.length = s.dimension := by
  by_contra hd
  rw [add_of_length_ne hd] at h
  cases h

theorem dimension_add (h : s.add collection e = .ok s') : s'.dimension = s.dimension := by
  rw [add_of_length_eq (length_eq_of_add h)] at h
  cases h
  rfl

theorem documents_add (h : s.add collection e = .ok s') (other : String) :
    s'.documents other =
      if other = collection then Store.place e (s.documents other) else s.documents other := by
  rw [add_of_length_eq (length_eq_of_add h)] at h
  cases h
  rw [documents, lookup_change]
  by_cases ho : other = collection
  · rw [if_pos ho, if_pos ho, ho]
    rfl
  · rw [if_neg ho, if_neg ho]
    rfl

theorem perform_add_of_ok (h : s.add collection e = .ok s') :
    s.perform (.add collection e) = (.ok [], s') := by
  rw [perform, h]

theorem perform_add_of_error {fault : RetrievalFault} (h : s.add collection e = .error fault) :
    s.perform (.add collection e) = (.error fault, s) := by
  rw [perform, h]

theorem fst_perform_add (s : Store) (collection : String) (e : Entry) :
    (s.perform (.add collection e)).1 = if e.embedding.length = s.dimension then .ok []
      else .error (.documentDimension e.embedding.length s.dimension) := by
  by_cases hd : e.embedding.length = s.dimension
  · rw [perform_add_of_ok (add_of_length_eq hd), if_pos hd]
  · rw [perform_add_of_error (add_of_length_ne hd), if_neg hd]

theorem documents_perform_add_of_ne {other : String} (ho : other ≠ collection) :
    (s.perform (.add collection e)).2.documents other = s.documents other := by
  cases hs : s.add collection e with
  | ok s' => rw [perform_add_of_ok hs, documents_add hs, if_neg ho]
  | error fault => rw [perform_add_of_error hs]

/-- An operation that fails changes nothing. -/
theorem perform_of_error {op : Operation} {fault : RetrievalFault}
    (h : (s.perform op).1 = .error fault) : (s.perform op).2 = s := by
  cases op with
  | search collection vector wanted limit => rfl
  | add collection e =>
    cases hs : s.add collection e with
    | ok s' =>
      rw [perform_add_of_ok hs] at h
      cases h
    | error fault => rw [perform_add_of_error hs]

theorem dimension_perform (s : Store) (op : Operation) :
    (s.perform op).2.dimension = s.dimension := by
  cases op with
  | search collection vector wanted limit => rfl
  | add collection e =>
    cases hs : s.add collection e with
    | ok s' =>
      rw [perform_add_of_ok hs]
      exact dimension_add hs
    | error fault => rw [perform_add_of_error hs]

theorem dimension_after (s : Store) (ops : List Operation) :
    (s.after ops).dimension = s.dimension := by
  induction ops generalizing s with
  | nil => rfl
  | cons op ops ih => exact (ih _).trans (dimension_perform s op)

theorem adds_of_ok (h : s.add collection e = .ok s') (other : String) :
    (Operation.add collection e).adds s other = if collection = other then [e] else [] := by
  simp only [Operation.adds, perform_add_of_ok h, Except.isOk, Except.toBool, and_true]

theorem adds_of_error {fault : RetrievalFault} (h : s.add collection e = .error fault)
    (other : String) : (Operation.add collection e).adds s other = [] := by
  simp only [Operation.adds, perform_add_of_error h, Except.isOk, Except.toBool,
    Bool.false_eq_true, and_false, if_false]

theorem length_eq_of_mem_adds {op : Operation} (h : e ∈ op.adds s collection) :
    e.embedding.length = s.dimension := by
  cases op with
  | search name vector wanted limit => cases h
  | add name x =>
    cases hs : s.add name x with
    | error fault =>
      rw [adds_of_error hs] at h
      cases h
    | ok s' =>
      rw [adds_of_ok hs] at h
      split at h
      · rw [List.mem_singleton.mp h]
        exact length_eq_of_add hs
      · cases h

theorem length_eq_of_mem_added {ops : List Operation} (h : e ∈ added collection s ops) :
    e.embedding.length = s.dimension := by
  induction ops generalizing s with
  | nil => cases h
  | cons op ops ih =>
    rcases List.mem_append.mp h with h | h
    · exact length_eq_of_mem_adds h
    · exact (ih h).trans (dimension_perform s op)

theorem isLatest_perform {past : List Entry} (h : IsLatest past (s.documents collection))
    (op : Operation) : IsLatest (past ++ op.adds s collection)
      ((s.perform op).2.documents collection) := by
  cases op with
  | search name vector wanted limit => exact (List.append_nil past).symm ▸ h
  | add name e =>
    cases hs : s.add name e with
    | error fault =>
      rw [adds_of_error hs, perform_add_of_error hs, List.append_nil]
      exact h
    | ok s' =>
      rw [adds_of_ok hs, perform_add_of_ok hs, documents_add hs]
      by_cases hn : name = collection
      · rw [if_pos hn, if_pos hn.symm]
        exact h.place e
      · rw [if_neg hn, if_neg (Ne.symm hn), List.append_nil]
        exact h

theorem isLatest_after {past : List Entry} (h : IsLatest past (s.documents collection))
    (ops : List Operation) :
    IsLatest (past ++ added collection s ops) ((s.after ops).documents collection) := by
  induction ops generalizing s past with
  | nil => exact (List.append_nil past).symm ▸ h
  | cons op ops ih =>
    rw [added, ← List.append_assoc]
    exact ih (isLatest_perform h op)

/-- Whatever is done with a new store, each collection holds the last document of every identifier
that was added to it, once, by the time of this addition and with an embedding of the dimension. An
addition fails for a wrong dimension only, a failure changes nothing, and no addition changes
another collection. A search with a vector of the dimension finds the first of what is there. -/
theorem holds_after (dimension : Nat) (ops : List Operation) :
    let s := (empty dimension).after ops
    (∀ collection, IsLatest (added collection (empty dimension) ops) (s.documents collection) ∧
      ((s.documents collection).map (·.document.id)).Nodup ∧
      (∀ id, (∃ e ∈ s.documents collection, e.document.id = id) ↔
        ∃ e ∈ added collection (empty dimension) ops, e.document.id = id) ∧
      ∀ e ∈ s.documents collection, e.embedding.length = dimension) ∧
    (∀ collection e, (s.perform (.add collection e)).1 =
        (if e.embedding.length = dimension then .ok []
          else .error (.documentDimension e.embedding.length dimension)) ∧
      ∀ other, other ≠ collection →
        (s.perform (.add collection e)).2.documents other = s.documents other) ∧
    (∀ op fault, (s.perform op).1 = .error fault → (s.perform op).2 = s) ∧
    ∀ collection vector wanted limit, vector.length = dimension →
      (∀ e ∈ s.documents collection, e.document.hasAll wanted = true →
        (score vector e).isNaN = false) →
      ∃ hits, s.perform (.search collection vector wanted limit) = (.ok hits, s) ∧
        AreHits vector (s.documents collection)
          (fun e => ∀ w ∈ wanted, e.document.metadata.lookup w.1 = some w.2) limit hits := by
  intro s
  have hdimension : s.dimension = dimension := dimension_after (empty dimension) ops
  refine ⟨fun collection => ?_, fun collection e => ?_, fun op fault => perform_of_error,
    fun collection vector wanted limit hd hn => ?_⟩
  · have hlatest : IsLatest (added collection (empty dimension) ops) (s.documents collection) :=
      isLatest_after (s := empty dimension) isLatest_nil ops
    exact ⟨hlatest, hlatest.nodup_ids, hlatest.exists_mem_iff,
      fun e he => length_eq_of_mem_added (hlatest.mem he)⟩
  · rw [fst_perform_add, hdimension]
    exact ⟨rfl, fun other => documents_perform_add_of_ne⟩
  · have hsearch : s.search collection vector wanted limit = .ok _ :=
      search_eq (hd.trans hdimension.symm)
    refine ⟨_, ?_, (search_eq_ok_iff (hd.trans hdimension.symm) hn).mp hsearch⟩
    rw [perform, hsearch]

def readding : List Operation :=
  [.add "guide" ⟨⟨"a", "old", []⟩, [1, 0]⟩, .add "guide" ⟨⟨"b", "other", []⟩, [2, 0]⟩,
    .search "guide" [1, 0] [] 5, .add "guide" ⟨⟨"c", "long", []⟩, [1, 0, 0]⟩,
    .add "guide" ⟨⟨"a", "new", []⟩, [4, 0]⟩, .add "notes" ⟨⟨"a", "note", []⟩, [0, 1]⟩]

theorem holds_after_readding :
    let s := (empty 2).after readding
    IsLatest (added "guide" (empty 2) readding) (s.documents "guide") ∧
    (added "guide" (empty 2) readding).map (·.document.text) = ["old", "other", "new"] ∧
    (s.documents "guide").map (·.document.text) = ["other", "new"] ∧
    (s.documents "notes").map (·.document.text) = ["note"] ∧
    ∃ hits, s.perform (.search "guide" [1, 0] [] 1) = (.ok hits, s) ∧
      AreHits [1, 0] (s.documents "guide")
        (fun e => ∀ w ∈ ([] : Metadata), e.document.metadata.lookup w.1 = some w.2) 1 hits ∧
      hits.map Snippet.text = ["other"] := by
  intro s
  obtain ⟨hholds, -, -, hsearch⟩ := holds_after 2 readding
  have hnumbers : ∀ e ∈ s.documents "guide", (score [1, 0] e).isNaN = false := by decide +kernel
  have hfirst : (s.firstHits "guide" [1, 0] [] 1).map Snippet.text = ["other"] := by
    decide +kernel
  obtain ⟨hits, hperform, hhits⟩ :=
    hsearch "guide" [1, 0] [] 1 rfl fun e he _ => hnumbers e he
  have hsame : (.ok (s.firstHits "guide" [1, 0] [] 1) : Except RetrievalFault _) = .ok hits :=
    (search_eq rfl).symm.trans (congrArg Prod.fst hperform)
  refine ⟨(hholds "guide").1, by decide, by decide, by decide, hits, hperform, hhits, ?_⟩
  rw [← Except.ok.inj hsame, hfirst]

end Operations

end BankQuery.Store
