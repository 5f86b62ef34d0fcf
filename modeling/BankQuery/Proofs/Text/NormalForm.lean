import BankQuery.Proofs.Text.Words
import Mathlib.Data.List.Chain
import Mathlib.Data.Nat.ModEq

/-!
# The normal form of a text

A character is settled when it is its own lower-case form and has no accent to fold. Every character
of a folded text is settled: what the case table maps to is mapped no further, and what an accented
letter is folded onto has no accent. So the words of a normal form are found in it again, and
`normalize_normal` says what a normal form is: letters and numerals with single spaces between them,
which a second pass leaves as they are.
-/

namespace BankQuery.Text

/-- What `r` maps to lies outside `s`, or between the code points that `s` covers. -/
def CaseRun.misses (r s : CaseRun) : Bool :=
  s.last < r.image || r.image + (r.last - r.first) < s.first ||
    (r.last == r.first || r.step % s.step == 0) && r.image % s.step != s.first % s.step

theorem CaseRun.not_covers_of_misses {r s : CaseRun} {n : Nat} (hn : r.covers n = true)
    (h : r.misses s = true) : s.covers (r.image + (n - r.first)) = false := by
  simp only [covers, Bool.and_eq_true, decide_eq_true_eq, beq_iff_eq] at hn
  simp only [misses, Bool.or_eq_true, Bool.and_eq_true, decide_eq_true_eq, beq_iff_eq,
    bne_iff_ne] at h
  rw [← Bool.not_eq_true, covers, Bool.and_eq_true, Bool.and_eq_true, decide_eq_true_eq,
    decide_eq_true_eq, beq_iff_eq]
  rintro ⟨⟨hfirst, hlast⟩, hmod⟩
  rcases h with (h | h) | ⟨hstep, hne⟩
  · omega
  · omega
  · -- The steps of `r` are steps of `s`, so that all images are in one class modulo its step.
    have hdvd : s.step ∣ n - r.first := by
      rcases hstep with h | h
      · rw [show n - r.first = 0 by omega]
        exact Nat.dvd_zero _
      · exact (Nat.dvd_of_mod_eq_zero h).trans (Nat.dvd_of_mod_eq_zero hn.2)
    have himage : r.image ≡ r.image + (n - r.first) [MOD s.step] :=
      (Nat.modEq_iff_dvd' (Nat.le_add_right _ _)).mpr (by rwa [Nat.add_sub_cancel_left])
    have hcovered : s.first ≡ r.image + (n - r.first) [MOD s.step] :=
      (Nat.modEq_iff_dvd' hfirst).mpr (Nat.dvd_of_mod_eq_zero hmod)
    exact hne (himage.trans hcovered.symm)

theorem exists_run_of_caseImage {runs : List CaseRun} {n m : Nat}
    (h : caseImage runs n = some m) :
    ∃ r ∈ runs, r.covers n = true ∧ m = r.image + (n - r.first) := by
  induction runs with
  | nil => cases h
  | cons r rest ih =>
    unfold caseImage at h
    split at h
    · cases h
    · split at h
      · rename_i hc
        cases h
        exact ⟨r, List.mem_cons_self, hc, rfl⟩
      · obtain ⟨r', hr', hc, hm⟩ := ih h
        exact ⟨r', List.mem_cons_of_mem r hr', hc, hm⟩

/-- No run maps into another one, onto a capital letter of ASCII, onto the dotted capital I, or out
of the characters. -/
theorem misses_lowerRuns : (lowerRuns.all fun r => (lowerRuns.all fun s => r.misses s) &&
    decide (0x5A < r.image) &&
    (decide (r.image + (r.last - r.first) < 0x130) || decide (0x130 < r.image)) &&
    (decide (r.image + (r.last - r.first) < 0xD800) ||
      decide (0xDFFF < r.image) && decide (r.image + (r.last - r.first) < 0x110000))) = true := by
  decide +kernel

theorem caseImage_of_caseImage {n m : Nat} (h : caseImage lowerRuns n = some m) :
    caseImage lowerRuns m = none ∧ 0x5A < m ∧ m ≠ 0x130 ∧ m.isValidChar := by
  obtain ⟨r, hr, hn, rfl⟩ := exists_run_of_caseImage h
  have hruns := List.all_eq_true.mp misses_lowerRuns r hr
  simp only [Bool.and_eq_true, Bool.or_eq_true, decide_eq_true_eq] at hruns
  obtain ⟨⟨⟨hmisses, hcapital⟩, hdotted⟩, hvalid⟩ := hruns
  have hle : n - r.first ≤ r.last - r.first := by
    simp only [CaseRun.covers, Bool.and_eq_true, decide_eq_true_eq] at hn
    omega
  refine ⟨?_, by omega, by omega, ?_⟩
  · cases hm : caseImage lowerRuns (r.image + (n - r.first)) with
    | none => rfl
    | some k =>
      obtain ⟨s, hs, hc, -⟩ := exists_run_of_caseImage hm
      have hmiss := CaseRun.not_covers_of_misses hn (List.all_eq_true.mp hmisses s hs)
      rw [hc] at hmiss
      cases hmiss
  · unfold Nat.isValidChar
    omega

theorem lowerChar_ascii : ∀ n < 0x80,
    lowerChar (Char.ofNat n).toLower = [(Char.ofNat n).toLower] := by
  decide

/-- The lower-case form of a character is in lower case. -/
theorem lowerChar_of_mem {c d : Char} (h : d ∈ lowerChar c) : lowerChar d = [d] := by
  unfold lowerChar at h
  split at h
  · rename_i hc
    rw [List.mem_singleton.mp h, ← Char.ofNat_toNat c]
    exact lowerChar_ascii c.toNat hc
  · rename_i hc
    split at h
    · rcases List.mem_pair.mp h with rfl | rfl
      · rfl
      · rfl
    · rename_i hdotted
      split at h
      · rename_i m hm
        obtain ⟨hnone, hcapital, hne, hvalid⟩ := caseImage_of_caseImage hm
        rw [List.mem_singleton.mp h]
        have hval : (Char.ofNat m).val.toNat = m := by
          rw [Char.ofNat, dif_pos hvalid]
          rfl
        have hsame : (Char.ofNat m).toLower = Char.ofNat m := dif_neg (by
          rintro ⟨-, hz⟩
          have hz : (Char.ofNat m).val.toNat ≤ 90 := hz
          omega)
        rw [lowerChar, hval, if_neg hne, hnone, hsame, ite_self]
      · rename_i hnone
        rw [List.mem_singleton.mp h, lowerChar, if_neg hc, if_neg hdotted, hnone]

/-- A character that lower case and the folding of accents leave as it is. -/
structure IsSettled (c : Char) : Prop where
  lower : lowerChar c = [c]
  plain : foldAccent c = c

theorem foldAccent_eq_or (c : Char) :
    foldAccent c = c ∨ foldAccent c ∈ ['a', 'e', 'i', 'o', 'u', 'n', 'c'] := by
  unfold foldAccent
  split_ifs <;> simp

theorem isSettled_foldAccent {c : Char} (h : lowerChar c = [c]) : IsSettled (foldAccent c) := by
  have hbase : ∀ c ∈ ['a', 'e', 'i', 'o', 'u', 'n', 'c'],
      lowerChar c = [c] ∧ foldAccent c = c := by
    simp only [List.forall_mem_cons]
    exact ⟨⟨rfl, rfl⟩, ⟨rfl, rfl⟩, ⟨rfl, rfl⟩, ⟨rfl, rfl⟩, ⟨rfl, rfl⟩, ⟨rfl, rfl⟩, ⟨rfl, rfl⟩,
      nofun⟩
  rcases foldAccent_eq_or c with hc | hc
  · exact ⟨by rwa [hc], by rw [hc, hc]⟩
  · obtain ⟨hlower, hplain⟩ := hbase _ hc
    exact ⟨hlower, hplain⟩

theorem isSettled_of_mem_folded {cs : List Char} {c : Char} (h : c ∈ folded cs) :
    IsSettled c := by
  obtain ⟨d, hd, rfl⟩ := List.mem_map.mp h
  obtain ⟨b, -, hb⟩ := List.mem_flatMap.mp hd
  exact isSettled_foldAccent (lowerChar_of_mem hb)

theorem folded_of_isSettled {cs : List Char} (h : ∀ c ∈ cs, IsSettled c) : folded cs = cs := by
  have hlower : cs.flatMap lowerChar = cs :=
    (List.flatMap_congr fun c hc => (h c hc).lower).trans (List.flatMap_singleton' cs)
  rw [folded, hlower]
  exact (List.map_congr_left fun c hc => (h c hc).plain).trans (List.map_id cs)

/-- The runs hold the characters that satisfy `p`, in the order of the text. -/
theorem flatten_runsFrom {p : Char → Bool} (run cs : List Char) :
    (runsFrom p run cs).flatten = run.reverse ++ cs.filter p := by
  have hopen (run : List Char) : (runsFrom p run []).flatten = run.reverse := by
    cases run with
    | nil => rfl
    | cons d ds => exact List.append_nil _
  induction cs generalizing run with
  | nil => rw [hopen, List.filter_nil, List.append_nil]
  | cons c cs ih =>
    rw [runsFrom_cons]
    split
    · rename_i hc
      rw [ih, List.reverse_cons, List.append_assoc, List.filter_cons_of_pos hc]
      rfl
    · rename_i hc
      rw [List.flatten_append, hopen, runs, ih, List.filter_cons_of_neg hc]
      rfl

theorem mem_of_mem_runs {p : Char → Bool} {cs w : List Char} (hw : w ∈ runs p cs) :
    ∀ c ∈ w, c ∈ cs := by
  intro c hc
  have hm : c ∈ (runs p cs).flatten := List.mem_flatten_of_mem hw hc
  rw [runs, flatten_runsFrom] at hm
  exact (List.mem_filter.mp hm).1

theorem words_of_mem_words {s w : String} (h : w ∈ words s) : words w = [w] := by
  obtain ⟨cs, hcs, rfl⟩ := List.mem_map.mp h
  obtain ⟨hne, hall⟩ := mem_runs hcs
  have hsettled : folded cs = cs :=
    folded_of_isSettled fun c hc => isSettled_of_mem_folded (mem_of_mem_runs hcs c hc)
  rw [words, String.toList_ofList, hsettled, runs_of_forall hne hall, List.map_singleton]

/-- The words of a normal form are those it was made of. -/
theorem words_normalize (s : String) : words (normalize s) = words s := by
  have happend (s t : String) : words (s ++ " " ++ t) = words s ++ words t :=
    words_append (by decide) (by decide) s t
  rw [normalize, intercalate_flatMap rfl happend]
  calc (words s).flatMap words = (words s).flatMap fun w => [w] :=
        List.flatMap_congr fun w hw => words_of_mem_words hw
    _ = words s := List.flatMap_singleton' _

/-- Letters and numerals with single spaces between them and none at the ends. -/
structure IsSpaced (cs : List Char) : Prop where
  chars : ∀ c ∈ cs, isAlphanumeric c = true ∨ c = ' '
  single : cs.IsChain fun a b => ¬ (a = ' ' ∧ b = ' ')
  first : cs.head? ≠ some ' '
  last : cs.getLast? ≠ some ' '

theorem ne_space_of_isAlphanumeric {c : Char} (h : isAlphanumeric c = true) : c ≠ ' ' := by
  rintro rfl
  exact absurd h (by decide)

namespace IsSpaced

variable {w cs : List Char}

theorem word (hw : ∀ c ∈ w, isAlphanumeric c = true) : IsSpaced w where
  chars c hc := .inl (hw c hc)
  single := by
    refine List.Pairwise.isChain (List.pairwise_of_forall_mem_list fun a ha b _ h => ?_)
    exact ne_space_of_isAlphanumeric (hw a ha) h.1
  first h := ne_space_of_isAlphanumeric (hw ' ' (List.mem_of_mem_head? h)) rfl
  last h := ne_space_of_isAlphanumeric (hw ' ' (List.mem_of_getLast? h)) rfl

theorem append (hne : w ≠ []) (hw : ∀ c ∈ w, isAlphanumeric c = true) (hcs : cs ≠ [])
    (h : IsSpaced cs) : IsSpaced (w ++ ' ' :: cs) where
  chars c hc := by
    rcases List.mem_append.mp hc with hc | hc
    · exact .inl (hw c hc)
    · rcases List.mem_cons.mp hc with rfl | hc
      · exact .inr rfl
      · exact h.chars c hc
  single := by
    refine List.isChain_append.mpr ⟨(word hw).single, List.isChain_cons.mpr ⟨?_, h.single⟩, ?_⟩
    · rintro c hc ⟨-, rfl⟩
      exact h.first hc
    · rintro c hc _ - ⟨rfl, -⟩
      exact (word hw).last hc
  first := by
    rw [List.head?_append_of_ne_nil _ hne]
    exact (word hw).first
  last := by
    rw [List.getLast?_append_of_ne_nil _ (List.cons_ne_nil _ _),
      List.getLast?_cons_of_ne_nil hcs]
    exact h.last

end IsSpaced

theorem isSpaced_normalize (s : String) : IsSpaced (normalize s).toList := by
  have hwords {ws : List (List Char)} (h : ∀ w ∈ ws, w ≠ [] ∧ ∀ c ∈ w, isAlphanumeric c = true) :
      IsSpaced ([' '].intercalate ws) ∧ (ws ≠ [] → [' '].intercalate ws ≠ []) := by
    induction ws with
    | nil => exact ⟨.word (List.forall_mem_nil _), fun hne => absurd rfl hne⟩
    | cons w ws ih =>
      obtain ⟨⟨hne, hw⟩, hws⟩ := List.forall_mem_cons.mp h
      cases ws with
      | nil =>
        rw [List.intercalate_singleton]
        exact ⟨.word hw, fun _ => hne⟩
      | cons v vs =>
        obtain ⟨hspaced, hnonempty⟩ := ih hws
        rw [List.intercalate_cons_cons, List.append_assoc]
        exact ⟨.append hne hw (hnonempty (List.cons_ne_nil v vs)) hspaced, fun _ => by simp [hne]⟩
  rw [normalize, String.toList_intercalate, words, List.map_map]
  have htexts : String.toList ∘ String.ofList = id := funext fun _ => String.toList_ofList
  rw [htexts, List.map_id]
  exact (hwords fun w hw => mem_runs hw).1

/-- A normal form is made of letters and numerals with single spaces between them, is left as it is
by a second pass, and holds the same tokens as their joining; a text that goes on behind a space has
the tokens of its two parts. -/
theorem normalize_normal (s t : String) :
    normalize (normalize s) = normalize s ∧ IsSpaced (normalize s).toList ∧
      " ".intercalate (tokens (normalize s)) = normalize s ∧
      tokens (normalize (s ++ " " ++ t)) = tokens (normalize s) ++ tokens (normalize t) := by
  refine ⟨?_, isSpaced_normalize s, ?_, ?_⟩
  · rw [normalize, words_normalize, normalize]
  · rw [tokens_normalize, normalize]
  · rw [tokens_normalize, tokens_normalize, tokens_normalize,
      words_append (by decide) (by decide)]

end BankQuery.Text
