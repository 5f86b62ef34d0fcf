import BankQuery.Text.Pattern
import Mathlib.Data.List.Forall2

/-!
# What a pattern matches

`Reaches p s t` says, without an order among alternatives, that the pattern `p` leads from the place
`s` to the place `t`. A run that gives something has gone on from a place that is reached. What every
reached place has in common is therefore true of every match: how much of the text it covers at
most, and how long the pieces are that it kept.
-/

namespace BankQuery.Text.Pattern

inductive Reaches : Pattern → Place → Place → Prop where
  | empty (s : Place) : Reaches .empty s s
  | one {p : Char → Bool} {s : Place} {c : Char} {rest : List Char} (hs : s.rest = c :: rest)
      (hc : p c = true) : Reaches (.one p) s { s with before := some c, rest }
  | boundary {s : Place} (h : s.atBoundary = true) : Reaches .boundary s s
  | both {p q : Pattern} {s t u : Place} (hp : Reaches p s t) (hq : Reaches q t u) :
      Reaches (.both p q) s u
  | first {p q : Pattern} {s t : Place} (hp : Reaches p s t) : Reaches (.either p q) s t
  | second {p q : Pattern} {s t : Place} (hq : Reaches q s t) : Reaches (.either p q) s t
  | none (p : Pattern) (s : Place) : Reaches (.many p) s s
  | more {p : Pattern} {s t u : Place} (hp : Reaches p s t) (hm : Reaches (.many p) t u) :
      Reaches (.many p) s u
  | keep {label : String} {p : Pattern} {s t : Place} (hp : Reaches p s t) :
      Reaches (.keep label p) s
        { t with kept := (label, s.rest.take (s.rest.length - t.rest.length)) :: t.kept }

variable {α : Type}

theorem rounds_eq_some {step : Place → (Place → Option α) → Option α} {p : Pattern}
    (hstep : ∀ {s k a}, step s k = some a → ∃ t, p.Reaches s t ∧ k t = some a) {n : Nat}
    {s : Place} {k : Place → Option α} {a : α} (h : rounds step n s k = some a) :
    ∃ t, (Pattern.many p).Reaches s t ∧ k t = some a := by
  induction n generalizing s a with
  | zero => exact ⟨s, .none p s, h⟩
  | succ n ih =>
    unfold rounds at h
    split at h
    · rename_i b hb
      obtain ⟨t, ht, hr⟩ := hstep hb
      split at hr
      · obtain ⟨u, hu, hk⟩ := ih hr
        exact ⟨u, .more ht hu, hk.trans h⟩
      · cases hr
    · exact ⟨s, .none p s, h⟩

theorem run_eq_some {p : Pattern} {s : Place} {k : Place → Option α} {a : α}
    (h : p.run s k = some a) : ∃ t, p.Reaches s t ∧ k t = some a := by
  induction p generalizing s k a with
  | empty => exact ⟨s, .empty s, h⟩
  | one p =>
    unfold run at h
    split at h
    · cases h
    · rename_i c rest hs
      split at h
      · rename_i hc
        exact ⟨_, .one hs hc, h⟩
      · cases h
  | boundary =>
    unfold run at h
    split at h
    · rename_i hb
      exact ⟨s, .boundary hb, h⟩
    · cases h
  | both p q ihp ihq =>
    obtain ⟨t, ht, h⟩ := ihp h
    obtain ⟨u, hu, h⟩ := ihq h
    exact ⟨u, .both ht hu, h⟩
  | either p q ihp ihq =>
    unfold run at h
    split at h
    · rename_i b hb
      obtain ⟨t, ht, hk⟩ := ihp hb
      exact ⟨t, .first ht, hk.trans h⟩
    · obtain ⟨t, ht, hk⟩ := ihq h
      exact ⟨t, .second ht, hk⟩
  | many p ih => exact rounds_eq_some ih h
  | keep label p ih =>
    obtain ⟨t, ht, h⟩ := ih h
    exact ⟨_, .keep ht, h⟩

theorem matchAt_eq_some {p : Pattern} {before : Option Char} {cs : List Char} {m : Found}
    (h : p.matchAt before cs = some m) : p.Reaches { before, rest := cs } m.stop ∧
      m.text = cs.take (cs.length - m.stop.rest.length) := by
  unfold matchAt at h
  obtain ⟨t, ht, rfl⟩ := Option.map_eq_some_iff.mp h
  obtain ⟨u, hu, heq⟩ := run_eq_some ht
  cases heq
  exact ⟨hu, rfl⟩

theorem findFrom_eq_some {p : Pattern} {before : Option Char} {cs : List Char} {m : Found}
    (h : p.findFrom before cs = some m) : ∃ start, p.Reaches start m.stop ∧ start.kept = [] ∧
      start.rest <:+ cs ∧ m.text = start.rest.take (start.rest.length - m.stop.rest.length) := by
  have hat {before : Option Char} {cs : List Char} (h : p.matchAt before cs = some m) :
      ∃ start, p.Reaches start m.stop ∧ start.kept = [] ∧ start.rest <:+ cs ∧
        m.text = start.rest.take (start.rest.length - m.stop.rest.length) :=
    ⟨_, (matchAt_eq_some h).1, rfl, List.suffix_refl cs, (matchAt_eq_some h).2⟩
  induction cs generalizing before with
  | nil => exact hat h
  | cons c rest ih =>
    unfold findFrom at h
    split at h
    · rename_i m' hm
      cases h
      exact hat hm
    · obtain ⟨start, hr, hk, hs, ht⟩ := ih h
      exact ⟨start, hr, hk, hs.trans (List.suffix_cons c rest), ht⟩

theorem Reaches.of_oneOf {ps : List Pattern} {s t : Place} (h : (oneOf ps).Reaches s t) :
    ∃ p ∈ ps, p.Reaches s t := by
  induction ps with
  | nil =>
    cases h with
    | one _ hc => cases hc
  | cons p ps ih =>
    cases ps with
    | nil => exact ⟨p, List.mem_cons_self, h⟩
    | cons q qs =>
      cases h with
      | first hp => exact ⟨p, List.mem_cons_self, hp⟩
      | second hq =>
        obtain ⟨r, hr, hreach⟩ := ih hq
        exact ⟨r, List.mem_cons_of_mem p hr, hreach⟩

/-- A word in any letter case covers as many characters, each the same letter. -/
theorem Reaches.of_anyCase {word : String} {s t : Place} (h : (anyCase word).Reaches s t) :
    ∃ cs, s.rest = cs ++ t.rest ∧
      List.Forall₂ (fun l c => sameLetter l c = true) word.toList cs ∧
      t.before = cs.getLast?.or s.before := by
  unfold anyCase at h
  generalize word.toList = letters at h
  induction letters generalizing s with
  | nil =>
    rw [List.foldr_nil] at h
    cases h
    exact ⟨[], rfl, .nil, rfl⟩
  | cons l ls ih =>
    rw [List.foldr_cons] at h
    cases h with
    | both hp hq =>
      cases hp with
      | @one _ _ c rest hs hc =>
        obtain ⟨cs, hcs, hf, hb⟩ := ih hq
        refine ⟨c :: cs, by rw [hs, List.cons_append, ← hcs], .cons hc hf, ?_⟩
        rw [hb]
        cases cs with
        | nil => rfl
        | cons d ds =>
          rw [List.getLast?_cons_cons, List.getLast?_eq_some_getLast (List.cons_ne_nil d ds)]
          rfl

def width? : Pattern → Option Nat
  | .empty => some 0
  | .one _ => some 1
  | .boundary => some 0
  | .both p q => do return (← p.width?) + (← q.width?)
  | .either p q => do return max (← p.width?) (← q.width?)
  | .many _ => none
  | .keep _ p => p.width?

theorem Reaches.length_le {p : Pattern} {s t : Place} (h : p.Reaches s t) {n : Nat}
    (hn : p.width? = some n) : s.rest.length ≤ t.rest.length + n := by
  induction h generalizing n with
  | empty s => simp
  | one hs hc =>
    cases hn
    simp [hs]
  | boundary h => simp
  | both _ _ ihp ihq =>
    simp only [width?, Option.bind_eq_bind, Option.bind_eq_some_iff] at hn
    obtain ⟨a, ha, b, hb, hn⟩ := hn
    cases hn
    have hp := ihp ha
    have hq := ihq hb
    omega
  | first _ ih =>
    simp only [width?, Option.bind_eq_bind, Option.bind_eq_some_iff] at hn
    obtain ⟨a, ha, b, -, hn⟩ := hn
    cases hn
    have hp := ih ha
    omega
  | second _ ih =>
    simp only [width?, Option.bind_eq_bind, Option.bind_eq_some_iff] at hn
    obtain ⟨a, -, b, hb, hn⟩ := hn
    cases hn
    have hq := ih hb
    omega
  | none p s => simp
  | more _ _ _ _ => cases hn
  | keep _ ih => exact ih hn

/-- Whether every piece that a match keeps under the label has at most `n` characters. -/
def keepsAtMost (label : String) (n : Nat) : Pattern → Bool
  | .empty => true
  | .one _ => true
  | .boundary => true
  | .both p q => p.keepsAtMost label n && q.keepsAtMost label n
  | .either p q => p.keepsAtMost label n && q.keepsAtMost label n
  | .many p => p.keepsAtMost label n
  | .keep l p => (l != label || p.width?.any (· ≤ n)) && p.keepsAtMost label n

theorem Reaches.kept_length_le {p : Pattern} {s t : Place} (h : p.Reaches s t) {label : String}
    {n : Nat} (hp : p.keepsAtMost label n = true)
    (hs : ∀ piece ∈ s.kept, piece.1 = label → piece.2.length ≤ n) :
    ∀ piece ∈ t.kept, piece.1 = label → piece.2.length ≤ n := by
  induction h with
  | empty s => exact hs
  | one _ _ => exact hs
  | boundary h => exact hs
  | both _ _ ihp ihq =>
    rw [keepsAtMost, Bool.and_eq_true] at hp
    exact ihq hp.2 (ihp hp.1 hs)
  | first _ ih =>
    rw [keepsAtMost, Bool.and_eq_true] at hp
    exact ih hp.1 hs
  | second _ ih =>
    rw [keepsAtMost, Bool.and_eq_true] at hp
    exact ih hp.2 hs
  | none p s => exact hs
  | more _ _ ihp ihm => exact ihm hp (ihp hp hs)
  | @keep l p s t hr ih =>
    rw [keepsAtMost, Bool.and_eq_true] at hp
    intro piece hm hl
    rcases List.mem_cons.mp hm with rfl | hm
    · cases hw : p.width? with
      | none => simp [hw, show l = label from hl] at hp
      | some w =>
        have hle : w ≤ n := by simpa [hw, show l = label from hl] using hp.1
        have hlen := hr.length_le hw
        simp only [List.length_take]
        omega
    · exact ih hp.2 hs piece hm hl

/-- A piece that a pattern keeps is as short as the pattern asks. -/
theorem length_le_of_piece? {p : Pattern} {s : String} {m : Found} {label piece : String} {n : Nat}
    (h : p.find s = some m) (hp : p.keepsAtMost label n = true)
    (hm : m.piece? label = some piece) : piece.length ≤ n := by
  obtain ⟨start, hr, hk, -, -⟩ := findFrom_eq_some h
  obtain ⟨cs, hcs, rfl⟩ := Option.map_eq_some_iff.mp hm
  rw [String.length_ofList]
  refine hr.kept_length_le hp (by simp [hk]) (label, cs) ?_ rfl
  obtain ⟨before, after, hkept, -⟩ := List.lookup_eq_some_iff.mp hcs
  simp [hkept]

end BankQuery.Text.Pattern
