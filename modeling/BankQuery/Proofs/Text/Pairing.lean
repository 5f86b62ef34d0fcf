import BankQuery.Text.Similarity
import Mathlib.Data.List.Perm.Subperm
import Mathlib.Data.List.Nodup
import Mathlib.Data.List.Range

/-!
# Paired characters

The characters of one text are paired with equal characters at different places of the other one
(`Pairs`). So neither text has fewer characters than there are pairs; where all characters of both
are paired, one text is a rearrangement of the other, and two such texts that are not equal differ
in two places at least.
-/

namespace BankQuery.Text

def charsAt (b : List Char) (places : List Nat) : List Char := places.filterMap (b[·]?)

/-- The characters `cs` are paired with those at the places that are new in `places`. -/
structure Pairs (b cs : List Char) (taken places : List Nat) : Prop where
  nodup : taken.Nodup → places.Nodup
  bounded : (∀ j ∈ taken, j < b.length) → ∀ j ∈ places, j < b.length
  length : places.length = cs.length + taken.length
  equal : (charsAt b places).Perm (cs ++ charsAt b taken)

section Pairing

variable {b : List Char} {c : Char} {low high reach i j : Nat} {taken : List Nat}

theorem partner?_spec {cs : List Char} (h : partner? c low high taken i cs = some j) :
    ∃ k, j = i + k ∧ cs[k]? = some c ∧ j ∉ taken := by
  induction cs generalizing i with
  | nil => cases h
  | cons d cs ih =>
    rw [partner?] at h
    split at h
    · rename_i hd
      obtain rfl := Option.some.inj h
      exact ⟨0, rfl, by simp [hd.2.2.1], hd.2.2.2⟩
    · obtain ⟨k, hk, hc, hn⟩ := ih h
      exact ⟨k + 1, by omega, by simpa using hc, hn⟩

theorem pairs_pairUp (reach : Nat) (b : List Char) (taken : List Nat) (i : Nat) (a : List Char) :
    (pairUp reach b taken i a).1.Sublist a ∧
      Pairs b (pairUp reach b taken i a).1 taken (pairUp reach b taken i a).2 := by
  induction a generalizing i taken with
  | nil => exact ⟨.slnil, id, id, by simp [pairUp], by simp [pairUp]⟩
  | cons c a ih =>
    rw [pairUp]
    cases hp : partner? c (i - reach) (i + reach + 1) taken 0 b with
    | none =>
      obtain ⟨hsub, hpairs⟩ := ih taken (i + 1)
      exact ⟨hsub.cons c, hpairs⟩
    | some j =>
      obtain ⟨hsub, hpairs⟩ := ih (j :: taken) (i + 1)
      obtain ⟨k, hk, hc, hfree⟩ := partner?_spec hp
      obtain rfl : j = k := by omega
      have hlt : j < b.length := (List.getElem?_eq_some_iff.mp hc).1
      refine ⟨hsub.cons_cons c, fun h => hpairs.nodup (h.cons hfree), fun h => ?_, ?_, ?_⟩
      · refine hpairs.bounded (List.forall_mem_cons.mpr ⟨hlt, h⟩)
      · rw [hpairs.length, List.length_cons, List.length_cons]
        omega
      · refine hpairs.equal.trans ?_
        rw [charsAt, List.filterMap_cons_some hc]
        exact List.perm_middle

end Pairing

section Counts

variable {a b cs : List Char} {places : List Nat}

@[simp] theorem charsAt_range (b : List Char) : charsAt b (List.range b.length) = b := by
  induction b with
  | nil => rfl
  | cons c b ih =>
    have hzero : (c :: b)[0]? = some c := rfl
    rw [List.length_cons, List.range_succ_eq_map, charsAt, List.filterMap_cons_some hzero,
      List.filterMap_map]
    exact congrArg (c :: ·) ih

theorem Pairs.subperm (h : Pairs b cs [] places) : places.Subperm (List.range b.length) :=
  (h.nodup List.nodup_nil).subperm fun _ hj =>
    List.mem_range.mpr (h.bounded (fun _ hn => absurd hn List.not_mem_nil) _ hj)

theorem Pairs.length_le (h : Pairs b cs [] places) : cs.length ≤ b.length := by
  have hle := h.subperm.length_le
  rw [h.length, List.length_range, List.length_nil] at hle
  exact hle

/-- If all characters of `b` are paired, their partners are a rearrangement of `b`. -/
theorem Pairs.perm (h : Pairs b cs [] places) (hlength : b.length ≤ cs.length) :
    places.Perm (List.range b.length) ∧ cs.Perm b := by
  have hplaces : places.Perm (List.range b.length) := by
    refine h.subperm.perm_of_length_le ?_
    rw [h.length, List.length_range]
    exact hlength
  refine ⟨hplaces, ?_⟩
  have hequal : (charsAt b places).Perm cs := by simpa [charsAt] using h.equal
  exact hequal.symm.trans ((hplaces.filterMap _).trans (.of_eq (charsAt_range b)))

theorem atPlaces_eq {places : List Nat} {i : Nat}
    (h : ∀ k, i ≤ k → k < i + b.length → k ∈ places) : atPlaces places i b = b := by
  induction b generalizing i with
  | nil => rfl
  | cons c b ih =>
    rw [List.length_cons] at h
    rw [atPlaces, if_pos (h i le_rfl (by omega)), ih fun k hk hl => h k (by omega) (by omega)]

end Counts

section Same

/-- In equal texts each character is paired with itself if all before it are. -/
theorem partner?_self {cs : List Char} {c : Char} {low high i k : Nat} {taken : List Nat}
    (hbefore : ∀ j, k ≤ j → j < i → j ∈ taken) (hfree : i ∉ taken) (hki : k ≤ i)
    (hc : cs[i - k]? = some c) (hlow : low ≤ i) (hhigh : i < high) :
    partner? c low high taken k cs = some i := by
  induction cs generalizing k with
  | nil => cases hc
  | cons d cs ih =>
    rw [partner?]
    rcases Nat.eq_or_lt_of_le hki with rfl | hlt
    · rw [Nat.sub_self, List.getElem?_cons_zero, Option.some.injEq] at hc
      exact if_pos ⟨hlow, hhigh, hc.symm, hfree⟩
    · rw [if_neg fun h => h.2.2.2 (hbefore k le_rfl hlt)]
      refine ih (fun j hj => hbefore j (by omega)) hlt ?_
      rwa [show i - k = i - (k + 1) + 1 by omega, List.getElem?_cons_succ] at hc

theorem pairUp_self (reach : Nat) (a before : List Char) {taken : List Nat}
    (htaken : ∀ j, j ∈ taken ↔ j < before.length) :
    (pairUp reach (before ++ a) taken before.length a).1 = a ∧
      ∀ j, j < (before ++ a).length → j ∈ (pairUp reach (before ++ a) taken before.length a).2 := by
  induction a generalizing before taken with
  | nil =>
    refine ⟨rfl, fun j hj => (htaken j).mpr ?_⟩
    rwa [List.append_nil] at hj
  | cons c a ih =>
    have hpartner : partner? c (before.length - reach) (before.length + reach + 1) taken 0
        (before ++ c :: a) = some before.length :=
      partner?_self (fun j _ hj => (htaken j).mpr hj) (fun h => by simpa using (htaken _).mp h)
        (Nat.zero_le _) (by simp) (by omega) (by omega)
    have hnext : ∀ j, j ∈ before.length :: taken ↔ j < (before ++ [c]).length := by
      intro j
      rw [List.mem_cons, htaken, List.length_append, List.length_singleton]
      omega
    have hih := ih (before ++ [c]) hnext
    have happend : before ++ [c] ++ a = before ++ c :: a := by simp
    rw [happend, show (before ++ [c]).length = before.length + 1 by simp] at hih
    rw [pairUp, hpartner]
    exact ⟨congrArg (c :: ·) hih.1, hih.2⟩

end Same

section Differences

theorem differences_cons (c d : Char) (a b : List Char) :
    differences (c :: a) (d :: b) = (if c = d then 0 else 1) + differences a b := by
  unfold differences
  rw [List.zip_cons_cons, List.filter_cons]
  by_cases h : c = d
  · simp [h]
  · simp [h, Nat.add_comm]

@[simp] theorem differences_self (a : List Char) : differences a a = 0 := by
  induction a with
  | nil => rfl
  | cons c a ih => rw [differences_cons, if_pos rfl, ih]

theorem eq_of_differences {a b : List Char} (hl : a.length = b.length)
    (h : differences a b = 0) : a = b := by
  induction a generalizing b with
  | nil => exact (List.length_eq_zero_iff.mp hl.symm).symm
  | cons c a ih =>
    cases b with
    | nil => cases hl
    | cons d b =>
      rw [differences_cons] at h
      by_cases hc : c = d
      · rw [hc, ih (Nat.succ_injective hl) (by omega)]
      · rw [if_neg hc] at h
        omega

/-- Rearranged texts that are not equal differ in two places at least. -/
theorem two_le_differences {a b : List Char} (hp : a.Perm b) (hne : a ≠ b) :
    2 ≤ differences a b := by
  induction a generalizing b with
  | nil => exact absurd (List.nil_perm.mp hp).symm hne
  | cons c a ih =>
    cases b with
    | nil => exact absurd (List.perm_nil.mp hp) hne
    | cons d b =>
      rw [differences_cons]
      by_cases hc : c = d
      · subst hc
        have := ih hp.cons_inv fun h => hne (by rw [h])
        omega
      · rw [if_neg hc]
        have hrest : differences a b ≠ 0 := by
          intro hzero
          obtain rfl := eq_of_differences (Nat.succ_injective hp.length_eq) hzero
          have hcount := hp.count_eq c
          rw [List.count_cons_self, List.count_cons_of_ne (Ne.symm hc)] at hcount
          omega
        omega

end Differences

end BankQuery.Text
