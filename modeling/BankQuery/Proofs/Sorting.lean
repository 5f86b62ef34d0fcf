import BankQuery.Sorting
import Mathlib.Order.Lattice

/-!
# Sorting by a key

A sort looks at its elements only to compare them with each other. So it may be done before or after
a change of the elements, it leaves alone what is in order, and where a key says how elements
compare it puts the keys in order, elements of one key as they stood.
-/

namespace BankQuery

variable {α β : Type}

section Comparison

variable {less less' : α → α → Bool}

theorem insertBack_congr {x : α} {xs : List α} (h : ∀ y ∈ xs, less x y = less' x y) :
    insertBack less x xs = insertBack less' x xs := by
  induction xs with
  | nil => rfl
  | cons y rest ih =>
    rw [insertBack, insertBack, h y List.mem_cons_self,
      ih fun z hz => h z (List.mem_cons_of_mem y hz)]

/-- Sorting compares elements of the list only. -/
theorem sortBy_congr {xs : List α} (h : ∀ x ∈ xs, ∀ y ∈ xs, less x y = less' x y) :
    sortBy less xs = sortBy less' xs := by
  have hfold : ∀ ys done : List α, ys ⊆ xs → done ⊆ xs →
      ys.foldl (fun done x => insertBack less x done) done =
        ys.foldl (fun done x => insertBack less' x done) done := by
    intro ys
    induction ys with
    | nil => exact fun _ _ _ => rfl
    | cons y ys ih =>
      intro done hys hdone
      have hy : y ∈ xs := hys List.mem_cons_self
      rw [List.foldl_cons, List.foldl_cons, insertBack_congr fun z hz => h y hy z (hdone hz)]
      refine ih _ (List.subset_of_cons_subset hys) fun z hz => ?_
      rcases List.mem_cons.mp ((insertBack_perm less' y done).mem_iff.mp hz) with rfl | hz
      · exact hy
      · exact hdone hz
  exact congrArg List.reverse (hfold xs [] (List.Subset.refl xs) (List.nil_subset xs))

theorem insertBack_map (g : β → α) (x : β) (xs : List β) :
    insertBack less (g x) (xs.map g) =
      (insertBack (fun a b => less (g a) (g b)) x xs).map g := by
  induction xs with
  | nil => rfl
  | cons y rest ih =>
    rw [List.map_cons, insertBack, insertBack, ih]
    split <;> rfl

theorem sortBy_map (g : β → α) (xs : List β) :
    sortBy less (xs.map g) = (sortBy (fun a b => less (g a) (g b)) xs).map g := by
  have hfold : ∀ ys done : List β,
      (ys.map g).foldl (fun done x => insertBack less x done) (done.map g) =
        (ys.foldl (fun done x => insertBack (fun a b => less (g a) (g b)) x done) done).map g := by
    intro ys
    induction ys with
    | nil => exact fun _ => rfl
    | cons y ys ih =>
      intro done
      rw [List.map_cons, List.foldl_cons, List.foldl_cons, insertBack_map, ih]
  exact (congrArg List.reverse (hfold xs [])).trans List.map_reverse.symm

/-- A list in which no element is less than one before it is sorted. -/
theorem sortBy_of_pairwise {xs : List α} (h : xs.Pairwise fun a b => less b a = false) :
    sortBy less xs = xs := by
  -- What is done is held in reverse, and each next element goes to its head.
  have hfold : ∀ ys done : List α, (ys.Pairwise fun a b => less b a = false) →
      (∀ y ∈ ys, ∀ d ∈ done.head?, less y d = false) →
      ys.foldl (fun done x => insertBack less x done) done = ys.reverse ++ done := by
    intro ys
    induction ys with
    | nil => exact fun _ _ _ => rfl
    | cons y ys ih =>
      intro done hys hhead
      obtain ⟨hy, hys⟩ := List.pairwise_cons.mp hys
      have hinsert : insertBack less y done = y :: done := by
        cases done with
        | nil => rfl
        | cons d rest =>
          rw [insertBack, hhead y List.mem_cons_self d rfl, if_neg Bool.false_ne_true]
      rw [List.foldl_cons, hinsert, ih (y :: done) hys, List.reverse_cons, List.append_assoc]
      · rfl
      · rintro z hz _ ⟨⟩
        exact hy z hz
  rw [sortBy, hfold xs [] h (by simp), List.append_nil, List.reverse_reverse]

end Comparison

section Key

variable {κ : Type} [LinearOrder κ] {less : α → α → Bool} {f : α → κ} {xs : List α}
  (h : ∀ a ∈ xs, ∀ b ∈ xs, less a b = true ↔ f a < f b)

include h

/-- Where elements are compared by a key, sorting puts the keys in order and leaves elements of one
key as they stood. -/
theorem pairwise_sortBy_key_stable {R : α → α → Prop} (hR : xs.Pairwise R) :
    (sortBy less xs).Pairwise fun a b => f a < f b ∨ f a = f b ∧ R a b := by
  have hless : sortBy less xs = sortBy (fun a b => decide (f a < f b)) xs := by
    apply sortBy_congr
    intro a ha b hb
    rw [Bool.eq_iff_iff, h a ha b hb, decide_eq_true_iff]
  have hsorted : (sortBy (fun a b => decide (f a < f b)) xs).Pairwise fun a b =>
      decide (f b < f a) = false ∧ (decide (f a < f b) = false → R a b) := by
    apply pairwise_sortBy_stable _ _ hR
    · intro a b hab
      simpa using (of_decide_eq_true hab).le
    · intro a b c hab hbc
      simp only [decide_eq_false_iff_not, not_lt] at hab hbc ⊢
      exact hbc.trans hab
  rw [hless]
  refine hsorted.imp fun {a b} hab => ?_
  obtain ⟨hle, hstood⟩ := hab
  rcases lt_or_eq_of_le (not_lt.mp (of_decide_eq_false hle)) with hlt | heq
  · exact .inl hlt
  · exact .inr ⟨heq, hstood (decide_eq_false heq.not_lt)⟩

theorem pairwise_sortBy_key : (sortBy less xs).Pairwise fun a b => f a ≤ f b := by
  have hany : xs.Pairwise fun _ _ => True := List.pairwise_of_forall fun _ _ => trivial
  exact (pairwise_sortBy_key_stable h hany).imp fun hab => hab.elim le_of_lt fun heq => heq.1.le

end Key

/-- What holds of an element only if it holds of all before it selects a first part of the list, so
that it may be asked before or after the list is cut. -/
theorem filter_take {p : α → Bool} {xs : List α}
    (h : xs.Pairwise fun a b => p b = true → p a = true) (n : Nat) :
    (xs.take n).filter p = (xs.filter p).take n := by
  induction xs generalizing n with
  | nil => simp
  | cons x rest ih =>
    obtain ⟨hx, hrest⟩ := List.pairwise_cons.mp h
    cases n with
    | zero => simp
    | succ n =>
      rw [List.take_succ_cons]
      by_cases hp : p x = true
      · rw [List.filter_cons_of_pos hp, List.filter_cons_of_pos hp, List.take_succ_cons, ih hrest]
      · have hnone : ∀ y ∈ rest, ¬ p y = true := fun y hy hpy => hp (hx y hy hpy)
        rw [List.filter_cons_of_neg hp, List.filter_cons_of_neg hp,
          List.filter_eq_nil_iff.mpr hnone,
          List.filter_eq_nil_iff.mpr fun y hy => hnone y (List.mem_of_mem_take hy), List.take_nil]

end BankQuery
