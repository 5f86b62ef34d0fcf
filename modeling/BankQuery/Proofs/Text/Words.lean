import Mathlib.Data.List.Basic
import BankQuery.Text.Normal

/-!
# Words of a text that is put together

Separators end a word, so the words of a text made of parts with separators between them are those
of its parts. A normal form holds the words it was made of: they are read from it again.
-/

namespace BankQuery.Text

variable {p : Char → Bool}

theorem runsFrom_cons (run : List Char) (c : Char) (cs : List Char) : runsFrom p run (c :: cs) =
    if p c then runsFrom p (c :: run) cs else runsFrom p run [] ++ runs p cs := by
  cases run with
  | nil => simp [runsFrom, runs]
  | cons d ds => simp [runsFrom, runs]

/-- A run ends at a separator, the open one as well. -/
theorem runsFrom_append_cons {c : Char} (hc : p c = false) (run a b : List Char) :
    runsFrom p run (a ++ c :: b) = runsFrom p run a ++ runs p b := by
  induction a generalizing run with
  | nil => rw [List.nil_append, runsFrom_cons, hc, if_neg Bool.false_ne_true]
  | cons d a ih =>
    rw [List.cons_append, runsFrom_cons, runsFrom_cons]
    split
    · exact ih (d :: run)
    · rw [runs, ih [], List.append_assoc]
      rfl

theorem runs_append {separator : List Char} (hne : separator ≠ []) (hs : separator.any p = false)
    (a b : List Char) : runs p (a ++ separator ++ b) = runs p a ++ runs p b := by
  induction separator generalizing a with
  | nil => exact absurd rfl hne
  | cons c rest ih =>
    rw [List.any_cons, Bool.or_eq_false_iff] at hs
    rw [List.append_assoc, List.cons_append, runs, runsFrom_append_cons hs.1]
    refine congrArg _ ?_
    by_cases hr : rest = []
    · rw [hr, List.nil_append]
    · exact ih hr hs.2 []

theorem mem_runsFrom {run cs w : List Char} (hr : ∀ c ∈ run, p c = true)
    (h : w ∈ runsFrom p run cs) : w ≠ [] ∧ ∀ c ∈ w, p c = true := by
  have hopen {run : List Char} (hr : ∀ c ∈ run, p c = true) (h : w ∈ runsFrom p run []) :
      w ≠ [] ∧ ∀ c ∈ w, p c = true := by
    cases run with
    | nil => cases h
    | cons d ds =>
      rw [List.mem_singleton.mp h]
      exact ⟨by simp, fun c hc => hr c (List.mem_reverse.mp hc)⟩
  induction cs generalizing run with
  | nil => exact hopen hr h
  | cons c cs ih =>
    rw [runsFrom_cons] at h
    split at h
    · rename_i hc
      exact ih (List.forall_mem_cons.mpr ⟨hc, hr⟩) h
    · rcases List.mem_append.mp h with h | h
      · exact hopen hr h
      · exact ih (List.forall_mem_nil _) h

/-- A run is not empty and holds no separator. -/
theorem mem_runs {cs w : List Char} (h : w ∈ runs p cs) : w ≠ [] ∧ ∀ c ∈ w, p c = true :=
  mem_runsFrom (List.forall_mem_nil _) h

theorem runsFrom_of_forall {cs : List Char} (h : ∀ c ∈ cs, p c = true) (run : List Char) :
    runsFrom p run cs = runsFrom p (cs.reverse ++ run) [] := by
  induction cs generalizing run with
  | nil => rfl
  | cons c cs ih =>
    obtain ⟨hc, hcs⟩ := List.forall_mem_cons.mp h
    rw [runsFrom_cons, if_pos hc, ih hcs, List.reverse_cons, List.append_assoc]
    rfl

theorem runs_of_forall {cs : List Char} (hne : cs ≠ []) (h : ∀ c ∈ cs, p c = true) :
    runs p cs = [cs] := by
  rw [runs, runsFrom_of_forall h, List.append_nil, runsFrom, if_neg (by simpa using hne),
    List.reverse_reverse]

theorem folded_append (a b : List Char) : folded (a ++ b) = folded a ++ folded b := by
  rw [folded, List.flatMap_append, List.map_append]
  rfl

/-- Lower case and accents folded, for ASCII without a look at the tables. -/
def foldedChar (c : Char) : List Char :=
  if c.val.toNat < 0x80 then [c.toLower] else (lowerChar c).map foldAccent

theorem folded_eq (cs : List Char) : folded cs = cs.flatMap foldedChar := by
  have hascii : ∀ n < 0x80, foldAccent (Char.ofNat n).toLower = (Char.ofNat n).toLower := by
    decide
  rw [folded, List.map_flatMap]
  refine List.flatMap_congr fun c _ => ?_
  unfold foldedChar
  split
  · rename_i hc
    have hfold := hascii c.toNat hc
    rw [Char.ofNat_toNat] at hfold
    rw [lowerChar, if_pos hc, List.map_singleton, hfold]
  · rfl

theorem words_eq (s : String) :
    words s = (runs isAlphanumeric (s.toList.flatMap foldedChar)).map String.ofList := by
  rw [words, folded_eq]

theorem words_append {separator : String} (hne : folded separator.toList ≠ [])
    (hs : (folded separator.toList).any isAlphanumeric = false) (s t : String) :
    words (s ++ separator ++ t) = words s ++ words t := by
  rw [words, String.toList_append, String.toList_append, folded_append, folded_append,
    runs_append hne hs, List.map_append]
  rfl

theorem rawWords_append {separator : String} (hne : separator.toList ≠ [])
    (hs : separator.toList.any isAlphanumeric = false) (s t : String) :
    rawWords (s ++ separator ++ t) = rawWords s ++ rawWords t := by
  rw [rawWords, String.toList_append, String.toList_append, runs_append hne hs, List.map_append]
  rfl

theorem tokens_append (s t : String) : tokens (s ++ " " ++ t) = tokens s ++ tokens t := by
  rw [tokens, String.toList_append, String.toList_append, runs_append (by decide) (by decide),
    List.map_append]
  rfl

/-- What holds the pieces of two texts with a separator between them holds those of any number. -/
theorem intercalate_flatMap {pieces : String → List String} {separator : String}
    (hnil : pieces "" = [])
    (h : ∀ s t, pieces (s ++ separator ++ t) = pieces s ++ pieces t) (texts : List String) :
    pieces (separator.intercalate texts) = texts.flatMap pieces := by
  induction texts with
  | nil => rw [String.intercalate_nil, hnil, List.flatMap_nil]
  | cons s rest ih =>
    rw [List.flatMap_cons, ← ih]
    cases rest with
    | nil => rw [String.intercalate_singleton, String.intercalate_nil, hnil, List.append_nil]
    | cons t rest => rw [String.intercalate_cons_cons, h]

theorem tokens_of_mem_words {s w : String} (h : w ∈ words s) : tokens w = [w] := by
  obtain ⟨cs, hcs, rfl⟩ := List.mem_map.mp h
  obtain ⟨hne, hall⟩ := mem_runs hcs
  have hblank : ∀ c ∈ cs, (c != ' ') = true := by
    intro c hc
    rw [bne_iff_ne]
    rintro rfl
    exact absurd (hall ' ' hc) (by decide)
  rw [tokens, String.toList_ofList, runs_of_forall hne hblank, List.map_singleton]

/-- The tokens of a normal form are the words it was made of. -/
theorem tokens_normalize (s : String) : tokens (normalize s) = words s := by
  rw [normalize, intercalate_flatMap rfl tokens_append]
  calc (words s).flatMap tokens = (words s).flatMap fun w => [w] :=
        List.flatMap_congr fun w hw => tokens_of_mem_words hw
    _ = words s := List.flatMap_singleton' _

theorem normalize_ne_of_words {s : String} (h : words s ≠ []) : normalize s ≠ "" := by
  intro hn
  rw [← tokens_normalize, hn] at h
  exact h rfl

end BankQuery.Text
