/-!
# Stable sorting

Insertion from the back: an element moves ahead of those it is less than and stops behind the first
that it is not. Where `less` is an order, elements that are equal in it keep their places.
-/

namespace BankQuery

variable {α : Type}

/-- Insert into a list in reverse order. -/
def insertBack (less : α → α → Bool) (x : α) : List α → List α
  | [] => [x]
  | y :: rest => if less x y then y :: insertBack less x rest else x :: y :: rest

def sortBy (less : α → α → Bool) (xs : List α) : List α :=
  (xs.foldl (fun done x => insertBack less x done) []).reverse

theorem insertBack_perm (less : α → α → Bool) (x : α) (xs : List α) :
    (insertBack less x xs).Perm (x :: xs) := by
  induction xs with
  | nil => exact .refl _
  | cons y rest ih =>
    unfold insertBack
    split
    · exact (ih.cons y).trans (.swap x y rest)
    · exact .refl _

theorem sortBy_perm (less : α → α → Bool) (xs : List α) : (sortBy less xs).Perm xs := by
  have h : ∀ (xs done : List α),
      (xs.foldl (fun done x => insertBack less x done) done).Perm (xs.reverse ++ done) := by
    intro xs
    induction xs with
    | nil => intro done; exact .refl _
    | cons x xs ih =>
      intro done
      refine (ih _).trans ?_
      rw [List.reverse_cons, List.append_assoc]
      exact (insertBack_perm less x done).append_left _
  unfold sortBy
  refine (List.reverse_perm _).trans ((h xs []).trans ?_)
  simp

section Order

variable {less : α → α → Bool} (hasymm : ∀ a b, less a b = true → less b a = false)
  (htrans : ∀ a b c, less a b = false → less b c = false → less a c = false)

include hasymm htrans

/-- The list is in reverse order, and `x` came after all that is in it. -/
theorem pairwise_insertBack_stable {R : α → α → Prop} {x : α} {xs : List α} (hx : ∀ y ∈ xs, R y x)
    (h : xs.Pairwise fun a b => less a b = false ∧ (less b a = false → R b a)) :
    (insertBack less x xs).Pairwise fun a b => less a b = false ∧ (less b a = false → R b a) := by
  induction xs with
  | nil => exact List.pairwise_singleton _ x
  | cons y rest ih =>
    obtain ⟨hy, hrest⟩ := List.pairwise_cons.mp h
    obtain ⟨hyx, hrestx⟩ := List.forall_mem_cons.mp hx
    unfold insertBack
    cases hxy : less x y with
    | true =>
      refine List.pairwise_cons.mpr ⟨fun z hz => ?_, ih hrestx hrest⟩
      rcases List.mem_cons.mp ((insertBack_perm less x rest).mem_iff.mp hz) with rfl | hz
      · exact ⟨hasymm z y hxy, fun hn => absurd (hxy.symm.trans hn) Bool.noConfusion⟩
      · exact hy z hz
    | false =>
      refine List.pairwise_cons.mpr ⟨fun z hz => ?_, h⟩
      rcases List.mem_cons.mp hz with rfl | hz
      · exact ⟨hxy, fun _ => hyx⟩
      · exact ⟨htrans x y z hxy (hy z hz).1, fun _ => hrestx z hz⟩

/-- In a sorted list no element is less than one before it, and elements of which neither is less
stand as they stood. -/
theorem pairwise_sortBy_stable {R : α → α → Prop} {xs : List α} (h : xs.Pairwise R) :
    (sortBy less xs).Pairwise fun a b => less b a = false ∧ (less a b = false → R a b) := by
  -- What is done stands in reverse order, and all of it came before what is left.
  have hfold : ∀ (xs done : List α), xs.Pairwise R → (∀ y ∈ done, ∀ x ∈ xs, R y x) →
      (done.Pairwise fun a b => less a b = false ∧ (less b a = false → R b a)) →
      (xs.foldl (fun done x => insertBack less x done) done).Pairwise
        fun a b => less a b = false ∧ (less b a = false → R b a) := by
    intro xs
    induction xs with
    | nil => exact fun _ _ _ hdone => hdone
    | cons x xs ih =>
      intro done hxs hbefore hdone
      obtain ⟨hx, hxs⟩ := List.pairwise_cons.mp hxs
      refine ih _ hxs (fun y hy z hz => ?_) (pairwise_insertBack_stable hasymm htrans
        (fun y hy => hbefore y hy x List.mem_cons_self) hdone)
      rcases List.mem_cons.mp ((insertBack_perm less x done).mem_iff.mp hy) with rfl | hy
      · exact hx z hz
      · exact hbefore y hy z (List.mem_cons_of_mem x hz)
  exact List.pairwise_reverse.mpr (hfold xs [] h (fun _ hy => nomatch hy) .nil)

/-- In a sorted list no element is less than one before it. -/
theorem pairwise_sortBy (xs : List α) : (sortBy less xs).Pairwise fun a b => less b a = false := by
  have hany : xs.Pairwise fun _ _ => True := List.pairwise_of_forall fun _ _ => trivial
  exact (pairwise_sortBy_stable hasymm htrans hany).imp And.left

end Order

/-- Keep the first of neighbours that agree. -/
def dropRepeats (same : α → α → Bool) : List α → List α
  | [] => []
  | x :: rest =>
    match dropRepeats same rest with
    | [] => [x]
    | y :: ys => if same x y then x :: ys else x :: y :: ys

theorem mem_dropRepeats [BEq α] [LawfulBEq α] {a : α} {xs : List α} :
    a ∈ dropRepeats (· == ·) xs ↔ a ∈ xs := by
  induction xs with
  | nil => rfl
  | cons x rest ih =>
    rw [List.mem_cons, ← ih, dropRepeats]
    cases dropRepeats (· == ·) rest with
    | nil => simp
    | cons y ys =>
      by_cases h : x == y
      · rw [eq_of_beq h]
        simp
      · simp [h]

theorem dropRepeats_of_nodup [BEq α] [LawfulBEq α] {xs : List α} (h : xs.Nodup) :
    dropRepeats (· == ·) xs = xs := by
  induction xs with
  | nil => rfl
  | cons x rest ih =>
    rw [List.nodup_cons] at h
    rw [dropRepeats, ih h.2]
    cases rest with
    | nil => rfl
    | cons y ys =>
      have hne : x ≠ y := fun he => h.1 (he ▸ List.mem_cons_self)
      simp [hne]

theorem dropRepeats_sublist (same : α → α → Bool) (xs : List α) :
    (dropRepeats same xs).Sublist xs := by
  induction xs with
  | nil => exact .slnil
  | cons x rest ih =>
    rw [dropRepeats]
    cases hd : dropRepeats same rest with
    | nil => exact (List.nil_sublist rest).cons_cons x
    | cons y ys =>
      rw [hd] at ih
      dsimp only
      split
      · exact ((List.sublist_cons_self y ys).trans ih).cons_cons x
      · exact ih.cons_cons x

/-- In an ordered list equal elements are neighbours. -/
theorem nodup_dropRepeats [BEq α] [LawfulBEq α] {R : α → α → Prop}
    (hanti : ∀ a b, R a b → R b a → a = b) {xs : List α} (h : xs.Pairwise R) :
    (dropRepeats (· == ·) xs).Nodup := by
  induction xs with
  | nil => exact .nil
  | cons x rest ih =>
    obtain ⟨hx, hrest⟩ := List.pairwise_cons.mp h
    have hsub := dropRepeats_sublist (· == ·) rest
    have hn := ih hrest
    rw [dropRepeats]
    cases hd : dropRepeats (· == ·) rest with
    | nil => exact List.pairwise_singleton _ x
    | cons y ys =>
      rw [hd] at hsub hn
      by_cases hxy : x = y
      · simpa [hxy] using hn
      · have hnot : x ∉ y :: ys := by
          intro hm
          rcases List.mem_cons.mp hm with he | hm
          · exact hxy he
          · have hyx := (List.pairwise_cons.mp (hrest.sublist hsub)).1 x hm
            exact hxy (hanti x y (hx y (hsub.subset List.mem_cons_self)) hyx)
        simpa [hxy] using List.nodup_cons.mpr ⟨hnot, hn⟩

end BankQuery
