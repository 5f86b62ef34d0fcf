/-!
# Sorted ranges of code points

A character class is a list of closed ranges in increasing order. Membership stops at the first
range that begins after the code point, so that the frequent characters are found early.
-/

namespace BankQuery.Text

abbrev Ranges := List (Nat × Nat)

def Ranges.has : Ranges → Nat → Bool
  | [], _ => false
  | (low, high) :: rest, n =>
    if n < low then false else if n ≤ high then true else Ranges.has rest n

theorem Ranges.exists_of_has {r : Ranges} {n : Nat} (h : r.has n = true) :
    ∃ p ∈ r, p.1 ≤ n ∧ n ≤ p.2 := by
  induction r with
  | nil => simp [Ranges.has] at h
  | cons p rest ih =>
    unfold Ranges.has at h
    split at h
    · simp at h
    · split at h
      · exact ⟨p, by simp, by omega, by omega⟩
      · obtain ⟨q, hq, hl, hr⟩ := ih h
        exact ⟨q, by simp [hq], hl, hr⟩

end BankQuery.Text
