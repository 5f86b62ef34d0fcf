import BankQuery.Proofs.Number.Arithmetic
import BankQuery.Proofs.Text.Pairing

/-!
# Which candidate is most like a word

Equal texts have the greatest likeness there is, however long they are. But it is a sum that is cut
off at one, and of equally similar candidates the earliest is meant: a text that holds the word, or
is held in it, may reach one as well and be taken before the word itself. No other text reaches it,
as far as lengths are told apart in double precision.
-/

namespace BankQuery.Text

open Number

section Bounds

variable {a b : List Char}

/-- The least that a proportion of up to `2 ^ 50` members lies below one. -/
def gap : ℚ := 1 / 2 ^ 50

theorem ratio_atMost {c n : Nat} (hn : 0 < n) (hlong : n ≤ 2 ^ 50) (hc : c ≤ n) :
    AtMost (Float.ofNat c / Float.ofNat n) 1 ∧
      (c < n → AtMost (Float.ofNat c / Float.ofNat n) (1 - gap)) := by
  have hpos : (0 : ℚ) < n := by exact_mod_cast hn
  have hcount := (hasValue_ofNat (n := c) (by omega)).atMost le_rfl
  have hlength := hasValue_ofNat (n := n) (by omega)
  refine ⟨hcount.div hlength hpos ⟨1, 0, by norm_num, by norm_num, by norm_num⟩ ?_ (by norm_num),
    fun hlt => hcount.div hlength hpos
      ⟨2 ^ 50 - 1, -50, by norm_num, by norm_num, by norm_num [gap]⟩ ?_ (by norm_num [gap])⟩
  · rw [div_le_one hpos]
    exact_mod_cast hc
  · have hlt : (c : ℚ) + 1 ≤ n := by exact_mod_cast hlt
    have hlong : (n : ℚ) ≤ 2 ^ 50 := by exact_mod_cast hlong
    rw [div_le_iff₀ hpos, gap]
    have hgap : 1 / 2 ^ 50 * (n : ℚ) ≤ 1 := by
      rw [one_div, inv_mul_le_iff₀ (by norm_num), mul_one]
      exact hlong
    linarith

theorem hasValue_zero : HasValue 0 0 := by
  have h := hasValue_ofNat (n := 0) (by decide)
  rwa [Nat.cast_zero] at h

theorem hasValue_one : HasValue 1 1 := by
  have h := hasValue_ofNat (n := 1) (by decide)
  rwa [Nat.cast_one] at h

theorem hasValue_three : HasValue 3 3 := hasValue_ofNat (n := 3) (by decide)

/-- The mean of three proportions, one of which is not the whole. -/
theorem mean_atMost {x y z : Float} (hx : AtMost x 1) (hy : AtMost y 1) (hz : AtMost z 1)
    (h : AtMost x (1 - gap) ∨ AtMost y (1 - gap) ∨ AtMost z (1 - gap)) :
    AtMost ((x + y + z) / 3) (1 - 1 / 2 ^ 52) := by
  have htwo : IsDouble 2 := ⟨2, 0, by norm_num, by norm_num, by norm_num⟩
  have hbelow : IsDouble (2 - gap) := ⟨2 ^ 51 - 1, -50, by norm_num, by norm_num, by norm_num [gap]⟩
  have hsum : AtMost (x + y + z) (3 - gap) := by
    have hthree : IsDouble (3 - gap) :=
      ⟨3 * 2 ^ 50 - 1, -50, by norm_num, by norm_num, by norm_num [gap]⟩
    have hsmall : 3 - gap ≤ 2 ^ 52 := by norm_num [gap]
    rcases h with h | h | h
    · exact (h.add hy hbelow (by linarith) (by norm_num [gap])).add hz hthree (by linarith) hsmall
    · exact (hx.add h hbelow (by linarith) (by norm_num [gap])).add hz hthree (by linarith) hsmall
    · exact (hx.add hy htwo (by norm_num) (by norm_num)).add h hthree (by linarith) hsmall
  exact hsum.div hasValue_three (by norm_num)
    ⟨2 ^ 52 - 1, -52, by norm_num, by norm_num, by norm_num⟩ (by norm_num [gap]) (by norm_num)

theorem jaro_atMost (hne : a ≠ b) (ha : a.length ≤ 2 ^ 50) (hb : b.length ≤ 2 ^ 50) :
    AtMost (jaro a b) (1 - 1 / 2 ^ 52) := by
  obtain ⟨hsub, hpairs⟩ := pairs_pairUp (Nat.max a.length b.length / 2 - 1) b [] 0 a
  have hzero : AtMost 0 (1 - 1 / 2 ^ 52) := hasValue_zero.atMost (by norm_num)
  unfold jaro
  generalize pairUp (Nat.max a.length b.length / 2 - 1) b [] 0 a = found at *
  obtain ⟨paired, places⟩ := found
  dsimp only at *
  split_ifs with hempty hnone hpaired
  · simp only [Bool.and_eq_true, List.isEmpty_iff] at hempty
    exact absurd (hempty.1.trans hempty.2.symm) hne
  · exact hzero
  · exact hzero
  · have hcount : 0 < paired.length := List.length_pos_iff.mpr (by simpa using hpaired)
    have hleft := hsub.length_le
    have hright := hpairs.length_le
    obtain ⟨hx, hx'⟩ := ratio_atMost (by omega) ha hleft
    obtain ⟨hy, hy'⟩ := ratio_atMost (by omega) hb hright
    obtain ⟨hz, hz'⟩ := ratio_atMost hcount (hleft.trans ha)
      (Nat.sub_le paired.length (differences paired (atPlaces places 0 b) / 2))
    refine mean_atMost hx hy hz ?_
    rcases hleft.lt_or_eq with hlt | hall
    · exact .inl (hx' hlt)
    · rcases hright.lt_or_eq with hlt | hall'
      · exact .inr (.inl (hy' hlt))
      · -- All characters are paired, so that the order of two of them differs.
        obtain ⟨hplaces, hperm⟩ := hpairs.perm hall'.ge
        obtain rfl : paired = a := hsub.eq_of_length hall
        have hat : atPlaces places 0 b = b := atPlaces_eq fun k _ hk =>
          hplaces.mem_iff.mpr (List.mem_range.mpr (by omega))
        rw [hat] at hz' ⊢
        have := two_le_differences hperm hne
        exact .inr (.inr (hz' (by omega)))

theorem isDouble_belowOne : IsDouble (1 - 1 / 2 ^ 53) :=
  ⟨2 ^ 53 - 1, -53, by norm_num, by norm_num, by norm_num⟩

/-- What is added for a common start is less than half of what lacks to one. -/
theorem raised_atMost {s : Float} {k : ℕ} (hs : AtMost s (1 - 1 / 2 ^ 52)) (hk : k ≤ 4) :
    AtMost (s + 0.1 * Float.ofNat k * (1 - s)) (1 - 1 / 2 ^ 53) := by
  obtain ⟨v, hv, hle⟩ := hs
  have hone := hasValue_one
  have hsub : Rounds (1 - s) (1 - v) := .sub hone hv (by linarith) (by norm_num)
  have hkq : (k : ℚ) ≤ 4 := by exact_mod_cast hk
  have hfactor : AtMost (0.1 * Float.ofNat k) (7 / 16) :=
    atMost_tenth.mul ((hasValue_ofNat (by omega)).atMost hkq)
      ⟨7, -4, by norm_num, by norm_num, by norm_num⟩ (by norm_num) (by norm_num)
  rcases le_or_gt v (1 / 2) with hhalf | hhalf
  · have hlack : AtMost (1 - s) 1 :=
      hsub.atMost ⟨1, 0, by norm_num, by norm_num, by norm_num⟩ (by linarith [hv.nonneg])
    have hraise : AtMost (0.1 * Float.ofNat k * (1 - s)) (7 / 16) :=
      hfactor.mul hlack ⟨7, -4, by norm_num, by norm_num, by norm_num⟩ (by norm_num) (by norm_num)
    exact (hv.atMost hhalf).add hraise isDouble_belowOne (by norm_num) (by norm_num)
  · -- The difference to one is exact, and so is its half.
    obtain ⟨n, hn, hlack⟩ := hv.exists_lack hhalf (by linarith)
    have hexact : HasValue (1 - s) (1 - v) := hsub.exact ⟨n, -53, by omega, by norm_num, hlack⟩
    have hraise : AtMost (0.1 * Float.ofNat k * (1 - s)) ((1 - v) / 2) := by
      refine hfactor.mul (hexact.atMost le_rfl)
        ⟨n, -54, by omega, by norm_num, ?_⟩ (by linarith) (by linarith)
      rw [hlack]
      norm_num
      ring
    exact (hv.atMost le_rfl).add hraise isDouble_belowOne (by linarith) (by norm_num)

theorem commonStart_le (a b : List Char) : commonStart a b ≤ a.length := by
  fun_induction commonStart a b with
  | case1 c a b ih => exact Nat.succ_le_succ ih
  | case2 | case3 => exact Nat.zero_le _

theorem jaroWinkler_atMost (hne : a ≠ b) (ha : a.length ≤ 2 ^ 50) (hb : b.length ≤ 2 ^ 50) :
    AtMost (jaroWinkler a b) (1 - 1 / 2 ^ 53) := by
  have hs := jaro_atMost hne ha hb
  have hk : commonStart (a.take 4) b ≤ 4 :=
    (commonStart_le _ _).trans (List.length_take_le 4 a)
  unfold jaroWinkler
  dsimp only
  split_ifs
  · exact raised_atMost hs hk
  · exact hs.mono (by norm_num)

/-- Texts that are not equal, and of which neither holds the other, are not wholly alike. -/
theorem likeness_lt_one {a b : String} (hne : a ≠ b) (ha : a.length ≤ 2 ^ 50)
    (hb : b.length ≤ 2 ^ 50) (hleft : occurs b.toList a.toList = false)
    (hright : occurs a.toList b.toList = false) : likeness a b < 1 := by
  unfold likeness
  split_ifs with hempty
  · exact hasValue_zero.lt hasValue_one (by norm_num)
  · have hscore : AtMost (jaroWinkler a.toList b.toList + containmentBonus a b)
        (1 - 1 / 2 ^ 53) := by
      have hbonus : containmentBonus a b = 0 := by
        unfold containmentBonus
        rw [hleft, hright]
        rfl
      rw [hbonus]
      refine (jaroWinkler_atMost (fun h => hne (String.toList_inj.mp h)) ?_ ?_).add
        (hasValue_zero.atMost le_rfl) isDouble_belowOne (by norm_num) (by norm_num)
      · rwa [String.length_toList]
      · rwa [String.length_toList]
    have hlt := hscore.lt hasValue_one (by norm_num)
    simp only [hlt, if_true]

end Bounds

section Equal

open Float.Model Float.Model.UnpackedFloat

/-- What is no number: the result of operations that have none. -/
def nan : Float := .ofModel (.pack .notANumber)

/-- A number divided by itself is one, where there is a result. -/
theorem div_self_cases (x : Float) : x / x = 1 ∨ x / x = nan := by
  change Float.ofModel (.pack (UnpackedFloat.div .binary64 x.toModel.unpack x.toModel.unpack)) = 1 ∨
    Float.ofModel (.pack (UnpackedFloat.div .binary64 x.toModel.unpack x.toModel.unpack)) = nan
  generalize x.toModel.unpack = u
  cases u with
  | infinity s | zero s | notANumber => exact .inr rfl
  | finite s m e hm =>
    have hcore : divCore .binary64 m e m e = (2 ^ 53, -53, .exact) := by
      unfold divCore
      rw [sub_self, sub_self, targetExponent_eq]
      dsimp only
      rw [Nat.shiftLeft_eq, Nat.mul_div_cancel_left _ hm, Nat.mul_mod_right]
      rfl
    have hdiv : UnpackedFloat.div .binary64 (.finite s m e hm) (.finite s m e hm) =
        roundWithAccuracy .binary64 (s / s) (2 ^ 53) (-53) .exact := by
      change roundWithAccuracy .binary64 (s / s) (divCore .binary64 m e m e).1
        (divCore .binary64 m e m e).2.1 (divCore .binary64 m e m e).2.2 = _
      rw [hcore]
    refine .inl ?_
    rw [hdiv]
    cases s with
    | negative | positive => rfl

/-- Zero divided by a number is zero, where there is a result. -/
theorem zero_div_cases (x : Float) :
    (∃ s, 0 / x = .ofModel (.pack (.zero s))) ∨ 0 / x = nan := by
  change (∃ s, Float.ofModel (.pack (UnpackedFloat.div .binary64 (.zero .positive)
    x.toModel.unpack)) = .ofModel (.pack (.zero s))) ∨
      Float.ofModel (.pack (UnpackedFloat.div .binary64 (.zero .positive) x.toModel.unpack)) = nan
  cases x.toModel.unpack with
  | infinity s | finite s m e hm => exact .inl ⟨_, rfl⟩
  | zero s | notANumber => exact .inr rfl

theorem jaro_self {a : List Char} (ha : a ≠ []) : jaro a a = 1 ∨ jaro a a = nan := by
  have hempty : a.isEmpty = false := List.isEmpty_eq_false_iff.mpr ha
  obtain ⟨hchars, hplaces⟩ := @pairUp_self (Nat.max a.length a.length / 2 - 1) a [] [] (by simp)
  rw [List.nil_append, List.length_nil] at hchars hplaces
  unfold jaro
  rw [hempty]
  generalize pairUp (Nat.max a.length a.length / 2 - 1) a [] 0 a = found at *
  obtain ⟨paired, places⟩ := found
  dsimp only at *
  subst hchars
  rw [atPlaces_eq fun k _ hk => hplaces k (by omega), differences_self, hempty]
  simp only [Bool.and_false, Bool.or_false, Bool.false_eq_true, if_false, Nat.zero_div,
    Nat.sub_zero]
  rcases div_self_cases (Float.ofNat paired.length) with h | h
  · rw [h]
    exact .inl (by decide)
  · rw [h]
    exact .inr (by decide)

theorem jaroWinkler_self {a : List Char} (ha : a ≠ []) :
    jaroWinkler a a = 1 ∨ jaroWinkler a a = nan := by
  have hk : commonStart (a.take 4) a ≤ 4 := (commonStart_le _ _).trans (List.length_take_le 4 a)
  unfold jaroWinkler
  dsimp only
  generalize commonStart (a.take 4) a = k at hk
  rcases jaro_self ha with h | h
  · rw [h]
    have hraised : ∀ k ≤ 4,
        (if (1 : Float) > 0.7 then 1 + 0.1 * Float.ofNat k * (1 - 1) else 1) = 1 := by
      decide
    exact .inl (hraised k hk)
  · rw [h]
    exact .inr (if_neg (by decide))

theorem startsWith_self (a : List Char) : startsWith a a = true := by
  induction a with
  | nil => rfl
  | cons c a ih => rw [startsWith, beq_self_eq_true, ih, Bool.and_self]

theorem occurs_self (a : List Char) : occurs a a = true := by
  cases a with
  | nil => rfl
  | cons c a => rw [occurs, startsWith_self, Bool.true_or]

theorem containmentBonus_self (a : String) :
    containmentBonus a a = 0.1 ∨ containmentBonus a a = (1 - nan) * 0.1 := by
  have hbonus : containmentBonus a a =
      (1 - 0 / Float.ofNat (Nat.max a.utf8ByteSize a.utf8ByteSize)) * 0.1 := by
    unfold containmentBonus
    rw [occurs_self]
    dsimp only
    rw [Bool.or_self, if_pos rfl]
    have hdiff (n : ℕ) : Nat.max n n - Nat.min n n = 0 := by
      change max n n - min n n = 0
      rw [max_self, min_self, Nat.sub_self]
    rw [hdiff]
    rfl
  rw [hbonus]
  rcases zero_div_cases (Float.ofNat (Nat.max a.utf8ByteSize a.utf8ByteSize)) with ⟨s, h⟩ | h
  · rw [h]
    refine .inl ?_
    cases s with
    | negative | positive => decide
  · exact .inr (by rw [h])

/-- A text is wholly like itself. -/
theorem likeness_self {a : String} (ha : a ≠ "") : likeness a a = 1 := by
  have hlist : a.toList ≠ [] := fun h => ha (String.toList_inj.mp h)
  have hscore : ¬ jaroWinkler a.toList a.toList + containmentBonus a a < 1 := by
    rcases jaroWinkler_self hlist with h | h <;> rcases containmentBonus_self a with h' | h' <;>
      rw [h, h'] <;> decide
  unfold likeness
  rw [if_neg (by simp [ha])]
  exact if_neg hscore

/-- One is the greatest likeness. -/
theorem likeness_cases (a b : String) : likeness a b < 1 ∨ likeness a b = 1 := by
  unfold likeness
  dsimp only
  split_ifs with hempty hlt
  · exact .inl (hasValue_zero.lt hasValue_one (by norm_num))
  · exact .inl hlt
  · exact .inr rfl

end Equal

namespace Matcher

variable {α : Type} {m : Matcher} {target : String}

/-- Before a candidate that is wholly like the target, one is found that is less like it, if any. -/
theorem foldl_step_lt_one {candidates : List (α × String)} {found : Option (α × Float)}
    (hfound : ∀ e ∈ found, e.2 < 1) (h : ∀ d ∈ candidates, similarity target d.2 < 1) :
    ∀ e ∈ candidates.foldl (m.step target) found, e.2 < 1 := by
  induction candidates generalizing found with
  | nil => exact hfound
  | cons d candidates ih =>
    refine ih ?_ fun e he => h e (List.mem_cons_of_mem d he)
    have hd := h d List.mem_cons_self
    intro e he
    unfold step better at he
    dsimp only at he
    split_ifs at he with hbelow
    · exact hfound e he
    · cases found with
      | none =>
        cases he
        exact hd
      | some e' =>
        dsimp only at he
        split_ifs at he with hle
        · exact hfound e he
        · cases he
          exact hd

theorem step_one {candidate : α × String} {found : Option (α × Float)}
    (hfound : ∀ e ∈ found, e.2 < 1) (hthreshold : m.threshold ≤ 1)
    (h : similarity target candidate.2 = 1) :
    m.step target found candidate = some (candidate.1, 1) := by
  unfold step better
  dsimp only
  rw [h, if_neg fun hlt => not_le_of_double_lt hlt hthreshold]
  cases found with
  | none => rfl
  | some e => exact if_neg (not_le_of_double_lt (hfound e rfl))

/-- No later candidate takes the place of one that is wholly like the target. -/
theorem foldl_step_one {candidates : List (α × String)} {k : α} :
    candidates.foldl (m.step target) (some (k, 1)) = some (k, 1) := by
  induction candidates with
  | nil => rfl
  | cons d candidates ih =>
    have hstep : m.step target (some (k, 1)) d = some (k, 1) := by
      have hle : similarity target d.2 ≤ 1 := by
        rcases likeness_cases (normalize target) (normalize d.2) with hlt | hone
        · exact le_of_double_lt hlt
        · rw [similarity, hone]
          decide
      unfold step better
      dsimp only
      rw [if_pos hle, ite_self]
    rw [List.foldl_cons, hstep, ih]

/-- Where some candidate has the target's normal form, the first candidate that is wholly like the
target is found. None before it has that normal form; it has that form itself, or holds it, or is
held in it. -/
theorem best?_of_exact {candidates : List (α × String)} (hthreshold : m.threshold ≤ 1)
    (hne : normalize target ≠ "") (hlong : m.minLength ≤ (normalize target).length)
    (hexact : ∃ d ∈ candidates, normalize d.2 = normalize target) :
    ∃ before c after, candidates = before ++ c :: after ∧
      m.best? target candidates = some (c.1, 1) ∧ similarity target c.2 = 1 ∧
      (∀ d ∈ before, similarity target d.2 < 1 ∧ normalize d.2 ≠ normalize target) ∧
      (normalize c.2 ≠ normalize target → (normalize target).length ≤ 2 ^ 50 →
        (normalize c.2).length ≤ 2 ^ 50 →
          occurs (normalize target).toList (normalize c.2).toList = true ∨
            occurs (normalize c.2).toList (normalize target).toList = true) := by
  have hself : ∀ d : α × String, normalize d.2 = normalize target → similarity target d.2 = 1 :=
    fun d hd => by rw [similarity, hd, likeness_self hne]
  obtain ⟨c, hfound⟩ :
      ∃ c, candidates.find? (fun d => !decide (similarity target d.2 < 1)) = some c := by
    obtain ⟨d, hmem, hd⟩ := hexact
    refine Option.isSome_iff_exists.mp (List.find?_isSome.mpr ⟨d, hmem, ?_⟩)
    rw [hself d hd]
    decide
  obtain ⟨hc, before, after, rfl, hbefore⟩ := List.find?_eq_some_iff_append.mp hfound
  have hc : similarity target c.2 = 1 := by
    rcases likeness_cases (normalize target) (normalize c.2) with hlt | hone
    · exact absurd (show similarity target c.2 < 1 from hlt) (by simpa using hc)
    · exact hone
  have hbefore : ∀ d ∈ before, similarity target d.2 < 1 := fun d hd => by simpa using hbefore d hd
  refine ⟨before, c, after, rfl, ?_, hc, fun d hd => ⟨hbefore d hd, fun h => ?_⟩,
    fun h htarget hform => ?_⟩
  · rw [best?, if_neg (not_lt.mpr hlong), List.foldl_append, List.foldl_cons,
      step_one (foldl_step_lt_one (by simp) hbefore) hthreshold hc, foldl_step_one]
  · have hlt := hbefore d hd
    rw [hself d h] at hlt
    exact not_le_of_double_lt hlt (by decide)
  · by_contra hapart
    rw [not_or, Bool.not_eq_true, Bool.not_eq_true] at hapart
    have hlt : similarity target c.2 < 1 :=
      likeness_lt_one (fun heq => h heq.symm) htarget hform hapart.2 hapart.1
    rw [hc] at hlt
    exact not_le_of_double_lt hlt (by decide)

/-- The word "morosidad" itself comes after a word that it holds and that is wholly like it. -/
theorem best?_of_exact_morosidad :
    ∃ before c after, [(0, "morosida"), (1, "morosidad")] = before ++ c :: after ∧
      ({} : Matcher).best? "morosidad" [(0, "morosida"), (1, "morosidad")] = some (c.1, 1) ∧
      similarity "morosidad" c.2 = 1 ∧
      (∀ d ∈ before, similarity "morosidad" d.2 < 1 ∧ normalize d.2 ≠ normalize "morosidad") ∧
      (normalize c.2 ≠ normalize "morosidad" → (normalize "morosidad").length ≤ 2 ^ 50 →
        (normalize c.2).length ≤ 2 ^ 50 →
          occurs (normalize "morosidad").toList (normalize c.2).toList = true ∨
            occurs (normalize c.2).toList (normalize "morosidad").toList = true) :=
  best?_of_exact (by decide) (by decide +kernel) (by decide +kernel)
    ⟨(1, "morosidad"), by simp, rfl⟩

/-- The first candidate with the target's normal form is not always the one that is found. -/
theorem not_first_exact :
    ¬ ∀ (m : Matcher) (target : String) (before after : List (Nat × String)) (c : Nat × String),
      m.threshold ≤ 1 → normalize target ≠ "" → m.minLength ≤ (normalize target).length →
      normalize c.2 = normalize target → (∀ d ∈ before, normalize d.2 ≠ normalize target) →
      (m.best? target (before ++ c :: after)).map Prod.fst = some c.1 := by
  intro h
  have hfirst := h {} "morosidad" [(0, "morosida")] [] (1, "morosidad") (by decide)
    (by decide +kernel) (by decide +kernel) rfl (by decide +kernel)
  exact absurd hfirst (by decide +kernel)

end Matcher

end BankQuery.Text
