import BankQuery.Engine.Cache
import BankQuery.Proofs.Question.Key

/-!
# Whose rows a cache returns

A new cache is asked, added to and purged in any order. It then holds, under the key of a question,
the rows that were last stored for this question and for no other (`Cache.Keeps`), which rests on
the keys being read back as the questions they are of. `Cache.get_after_keyed` says what is returned.
-/

namespace BankQuery.Cache

inductive Use where
  | get (now : Nat) (q : Question)
  | insert (now : Nat) (q : Question) (rows : List Row)
  | purge (now : Nat)

def Use.time : Use → Nat
  | .get now _ => now
  | .insert now _ _ => now
  | .purge now => now

def Use.stored? (q : Question) : Use → Option (List Row × Nat)
  | .insert now asked rows => if asked = q then some (rows, now) else none
  | .get .. | .purge _ => none

def used (c : Cache) : Use → Cache
  | .get now q => (c.get now q).2
  | .insert now q rows => c.insert now q rows
  | .purge now => c.purge now

def after (c : Cache) (uses : List Use) : Cache := uses.foldl used c

def lastStored? (q : Question) (uses : List Use) : Option (List Row × Nat) :=
  (uses.filterMap (Use.stored? q)).getLast?

/-- After these uses the entries are the rows last stored for their questions, those among them that
are still fresh at the latest time. -/
structure Keeps (c : Cache) (uses : List Use) : Prop where
  own : ∀ x ∈ c.entries, ∃ q, x.key = q.key ∧ lastStored? q uses = some (x.rows, x.storedAt)
  fresh : ∀ now, (∀ u ∈ uses, u.time ≤ now) → ∀ q rows time,
    lastStored? q uses = some (rows, time) → now - time < c.lifetime →
      ⟨q.key, rows, time⟩ ∈ c.entries

section Uses

variable {c : Cache} {uses : List Use} {q : Question} {now : Nat} {x y : CachedRows}

theorem lastStored?_concat (q : Question) (uses : List Use) (u : Use) :
    lastStored? q (uses ++ [u]) = (u.stored? q).or (lastStored? q uses) := by
  rw [lastStored?, List.filterMap_append, List.getLast?_append]
  cases hu : u.stored? q with
  | none => simp [hu, lastStored?]
  | some stored => simp [hu]

theorem lifetime_used (c : Cache) (u : Use) : (c.used u).lifetime = c.lifetime := by
  cases u with
  | get now q =>
    simp only [used, get]
    split
    · rfl
    · split <;> rfl
  | insert now q rows => rfl
  | purge now => rfl

theorem lifetime_after (c : Cache) (uses : List Use) : (c.after uses).lifetime = c.lifetime := by
  induction uses generalizing c with
  | nil => rfl
  | cons u uses ih => exact (ih _).trans (lifetime_used c u)

/-- Entries of one key are of one question and so are one entry. -/
theorem Keeps.eq_of_key (h : c.Keeps uses) (hx : x ∈ c.entries) (hy : y ∈ c.entries)
    (hkey : x.key = y.key) : x = y := by
  obtain ⟨q, hq, hxs⟩ := h.own x hx
  obtain ⟨q', hq', hys⟩ := h.own y hy
  obtain rfl : q = q' := Question.key_inj.mp (hq ▸ hkey.trans hq')
  obtain ⟨hrows, htime⟩ := Prod.mk.inj (Option.some.inj (hxs.symm.trans hys))
  obtain ⟨key, rows, time⟩ := x
  obtain ⟨key', rows', time'⟩ := y
  rw [CachedRows.mk.injEq]
  exact ⟨hkey, hrows, htime⟩

theorem Keeps.mem_get (h : c.Keeps uses) (hx : x ∈ c.entries) (hf : c.isFresh now x = true)
    (q : Question) : x ∈ (c.get now q).2.entries := by
  unfold get
  split
  · exact hx
  · next y hy =>
    split
    · exact hx
    · next hstale =>
      -- A stale entry of the key would be this one, which is fresh.
      refine mem_without.mpr ⟨hx, fun hk => hstale ?_⟩
      have hkey := List.find?_some hy
      rw [beq_iff_eq] at hkey
      rw [h.eq_of_key (List.mem_of_find?_eq_some hy) hx (hkey.trans hk.symm), hf]

theorem keeps_nil (lifetime : Nat) : Keeps ⟨lifetime, []⟩ [] :=
  ⟨fun _ hx => absurd hx List.not_mem_nil, fun _ _ _ _ _ h => by cases h⟩

theorem Keeps.own_used (h : c.Keeps uses) (u : Use) (hx : x ∈ (c.used u).entries) :
    ∃ q, x.key = q.key ∧ lastStored? q (uses ++ [u]) = some (x.rows, x.storedAt) := by
  simp only [lastStored?_concat]
  cases u with
  | get now q => exact h.own x (mem_of_mem_get hx)
  | purge now => exact h.own x (mem_purge.mp hx).1
  | insert now q rows =>
    rcases mem_insert.mp hx with ⟨⟨hx, -⟩, hkey⟩ | rfl
    · obtain ⟨q', hq', hstored⟩ := h.own x hx
      have hne : q ≠ q' := fun hqq => hkey (hqq ▸ hq')
      exact ⟨q', hq', by rw [Use.stored?, if_neg hne, Option.none_or, hstored]⟩
    · exact ⟨q, rfl, by rw [Use.stored?, if_pos rfl, Option.some_or]⟩

theorem Keeps.fresh_used (h : c.Keeps uses) (u : Use) (htimes : ∀ v ∈ uses ++ [u], v.time ≤ now)
    {rows : List Row} {time : Nat} (hs : lastStored? q (uses ++ [u]) = some (rows, time))
    (hf : now - time < c.lifetime) : ⟨q.key, rows, time⟩ ∈ (c.used u).entries := by
  rw [lastStored?_concat] at hs
  have hnow : u.time ≤ now := htimes u (List.mem_append_right _ List.mem_cons_self)
  -- What is fresh at the latest time was fresh at the time of every use.
  have hold (hs : lastStored? q uses = some (rows, time)) :
      ⟨q.key, rows, time⟩ ∈ c.entries ∧ c.isFresh u.time ⟨q.key, rows, time⟩ = true :=
    ⟨h.fresh now (fun v hv => htimes v (List.mem_append_left _ hv)) q rows time hs hf,
      decide_eq_true (Nat.lt_of_le_of_lt (Nat.sub_le_sub_right hnow time) hf)⟩
  cases u with
  | get asked q' =>
    obtain ⟨hx, hfresh⟩ := hold hs
    exact h.mem_get hx hfresh q'
  | purge asked => exact mem_purge.mpr (hold hs)
  | insert asked q' rows' =>
    rw [Use.stored?] at hs
    by_cases hq : q' = q
    · rw [if_pos hq, Option.some_or, Option.some.injEq, Prod.mk.injEq] at hs
      exact mem_insert.mpr (.inr (by rw [← hs.1, ← hs.2, hq]))
    · rw [if_neg hq, Option.none_or] at hs
      exact mem_insert.mpr (.inl ⟨hold hs, fun hk => hq (Question.key_inj.mp hk).symm⟩)

theorem Keeps.used (h : c.Keeps uses) (u : Use) : (c.used u).Keeps (uses ++ [u]) where
  own _ hx := h.own_used u hx
  fresh _ htimes _ _ _ hs hf := h.fresh_used u htimes hs (lifetime_used c u ▸ hf)

theorem Keeps.after (h : c.Keeps uses) (later : List Use) :
    (c.after later).Keeps (uses ++ later) := by
  induction later generalizing c uses with
  | nil => exact (List.append_nil uses).symm ▸ h
  | cons u later ih =>
    rw [List.append_cons]
    exact ih (h.used u)

theorem Keeps.of_get {rows : List Row} (h : c.Keeps uses) (hg : (c.get now q).1 = some rows) :
    ∃ time, lastStored? q uses = some (rows, time) ∧ now - time < c.lifetime := by
  unfold get at hg
  split at hg
  · cases hg
  · next x hx =>
    split at hg
    · next hfresh =>
      have hkey := List.find?_some hx
      rw [beq_iff_eq] at hkey
      obtain ⟨q', hq', hs⟩ := h.own x (List.mem_of_find?_eq_some hx)
      obtain rfl : q = q' := Question.key_inj.mp (hkey.symm.trans hq')
      cases hg
      exact ⟨x.storedAt, hs, of_decide_eq_true hfresh⟩
    · cases hg

theorem Keeps.get_of_mem (h : c.Keeps uses) (hx : x ∈ c.entries) (hkey : x.key = q.key)
    (hf : c.isFresh now x = true) : (c.get now q).1 = some x.rows := by
  unfold get
  split
  · next hnone => exact absurd (beq_iff_eq.mpr hkey) (List.find?_eq_none.mp hnone x hx)
  · next y hy =>
    have hsame := List.find?_some hy
    rw [beq_iff_eq] at hsame
    rw [h.eq_of_key (List.mem_of_find?_eq_some hy) hx (hsame.trans hkey.symm), if_pos hf]

/-- A question is read back from its key, so that its key is its own, and whatever a cache was used
for, it returns no rows for a question but those last stored for this question while they are fresh.
These it returns, unless it was used at a later time. -/
theorem get_after_keyed (q : Question) :
    (Json.read? q.key).bind Question.ofJson? = some q ∧ (∀ q', q.key = q'.key ↔ q = q') ∧
    ∀ lifetime uses now rows,
      ((((Cache.mk lifetime []).after uses).get now q).1 = some rows →
        ∃ time, lastStored? q uses = some (rows, time) ∧ now - time < lifetime) ∧
      ((∀ u ∈ uses, u.time ≤ now) → ∀ time, lastStored? q uses = some (rows, time) →
        now - time < lifetime → (((Cache.mk lifetime []).after uses).get now q).1 = some rows) := by
  refine ⟨q.ofJson?_key, fun q' => Question.key_inj, fun lifetime uses now rows => ?_⟩
  have hkeeps : ((Cache.mk lifetime []).after uses).Keeps uses := (keeps_nil lifetime).after uses
  have hlife : ((Cache.mk lifetime []).after uses).lifetime = lifetime := lifetime_after _ uses
  refine ⟨fun hg => hlife ▸ hkeeps.of_get hg, fun htimes time hs hf => ?_⟩
  have hf : now - time < ((Cache.mk lifetime []).after uses).lifetime := hlife.symm ▸ hf
  exact hkeeps.get_of_mem (hkeeps.fresh now htimes q rows time hs hf) rfl (decide_eq_true hf)

/-- One bank whose name looks like a list of two, a metric with a control character, and dates with
years of a sign. -/
def oddQuestion : Question where
  metric := some "MO\"RA\\\x07"
  banks := ["NORTE\",\"SUR"]
  range := ⟨(Date.ofParts? (-812) 2 29).get (by decide), (Date.ofParts? 23456 5 6).get (by decide)⟩
  mode := .compare
  topN := some 4294967295

def plainQuestion : Question := { oddQuestion with banks := ["NORTE", "SUR"] }

def oddRows : List Row :=
  [{ bank := "NORTE\",\"SUR", period := oddQuestion.range.stop, value := some 0.25 }]

/-- The rows of the one are not returned for the other, and are still there for their own. -/
theorem get_after_keyed_odd :
    (Json.read? oddQuestion.key).bind Question.ofJson? = some oddQuestion ∧
    oddQuestion.key ≠ plainQuestion.key ∧
    (((Cache.mk 300 []).after [.insert 10 oddQuestion oddRows]).get 20 plainQuestion).1 = none ∧
    (((Cache.mk 300 []).after [.insert 10 oddQuestion oddRows, .get 20 plainQuestion,
      .insert 30 plainQuestion []]).get 309 oddQuestion).1 = some oddRows := by
  have hne : oddQuestion ≠ plainQuestion := by decide
  obtain ⟨hread, hkey, hodd⟩ := get_after_keyed oddQuestion
  refine ⟨hread, fun h => hne ((hkey _).mp h), ?_, ?_⟩
  · rw [Option.eq_none_iff_forall_ne_some]
    intro found hfound
    obtain ⟨time, hstored, -⟩ :=
      ((get_after_keyed plainQuestion).2.2 300 _ 20 found).1 hfound
    simp [lastStored?, Use.stored?, hne] at hstored
  · refine (hodd 300 _ 309 oddRows).2 (by simp [Use.time]) 10 ?_ (by decide)
    simp [lastStored?, List.filterMap_cons, Use.stored?, hne.symm]

end Uses

end BankQuery.Cache
