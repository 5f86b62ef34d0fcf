import BankQuery.Proofs.Question.Aliases
import BankQuery.Proofs.Question.Conversation

/-!
# A text cut into aliases

A scan walks over a text and cuts it into spans, in each of which an alias stands, and words outside
of them. The spans are the leftmost longest ones: at the start of each of them no longer alias
stands, none as long is of an earlier entry, and no alias stands at a place outside of the spans.
`Alias.scan_segments` says that the walk ends, that no other spans are of this kind, and what the
scan makes of them.
-/

namespace BankQuery

section FirstPlaces

variable {α : Type} [BEq α] [LawfulBEq α] {a b x : α}

/-- Elements keep their order when another one is left out. -/
theorem idxOf_lt_of_filter {xs : List α} (ha : x ≠ a) (hb : x ≠ b)
    (h : (xs.filter fun y => !y == x).idxOf a < (xs.filter fun y => !y == x).idxOf b) :
    xs.idxOf a < xs.idxOf b := by
  induction xs with
  | nil => exact absurd h (Nat.lt_irrefl 0)
  | cons y ys ih =>
    by_cases hy : y = x
    · rw [List.filter_cons_of_neg (by simp [hy])] at h
      have hrest := ih h
      rw [hy, List.idxOf_cons_ne ys ha, List.idxOf_cons_ne ys hb]
      omega
    · rw [List.filter_cons_of_pos (by simp [hy]), List.idxOf_cons, List.idxOf_cons] at h
      rw [List.idxOf_cons, List.idxOf_cons]
      cases hya : y == a with
      | true =>
        rw [hya] at h
        cases hyb : y == b with
        | true =>
          rw [hyb] at h
          exact absurd h (Nat.lt_irrefl 0)
        | false => exact Nat.succ_pos _
      | false =>
        rw [hya] at h
        cases hyb : y == b with
        | true =>
          rw [hyb] at h
          exact absurd h (Nat.not_lt_zero _)
        | false =>
          rw [hyb] at h
          exact Nat.succ_lt_succ (ih (Nat.lt_of_succ_lt_succ h))

/-- Without repetitions the elements stand in the order of their first places. -/
theorem pairwise_idxOf_eraseDups (xs : List α) :
    xs.eraseDups.Pairwise fun a b => xs.idxOf a < xs.idxOf b := by
  induction hn : xs.length using Nat.strongRecOn generalizing xs with
  | _ n ih =>
    cases xs with
    | nil => simp
    | cons x xs =>
      have hlen := List.length_filter_le (fun y => !y == x) xs
      rw [List.length_cons] at hn
      have hrest : ∀ y ∈ (xs.filter fun y => !y == x).eraseDups, x ≠ y := by
        intro y hy he
        have hmem := (List.mem_filter.mp (List.mem_eraseDups.mp hy)).2
        simp [he] at hmem
      rw [List.eraseDups_cons]
      refine List.pairwise_cons.mpr ⟨fun y hy => ?_, ?_⟩
      · rw [List.idxOf_cons_self, List.idxOf_cons_ne xs (hrest y hy)]
        exact Nat.succ_pos _
      · refine (ih _ (by omega) _ rfl).imp_of_mem fun {a b} ha hb hlt => ?_
        have hlt := idxOf_lt_of_filter (hrest a ha) (hrest b hb) hlt
        rw [List.idxOf_cons_ne xs (hrest a ha), List.idxOf_cons_ne xs (hrest b hb)]
        exact Nat.succ_lt_succ hlt

end FirstPlaces

namespace Alias

/-- The words of the alias stand at the start of the text, all of them free. -/
def StandsFree (a : Alias) (text : List Token) : Prop :=
  (a.words.map fun w => (⟨w, false⟩ : Token)) <+: text

theorem standsAt_iff {ws : List String} {text : List Token} :
    standsAt ws text = true ↔ (ws.map fun w => (⟨w, false⟩ : Token)) <+: text := by
  induction ws generalizing text with
  | nil => simp [standsAt]
  | cons w ws ih =>
    cases text with
    | nil => simp [standsAt]
    | cons t ts =>
      obtain ⟨word, taken⟩ := t
      rw [List.map_cons, List.cons_prefix_cons, Token.mk.injEq, standsAt, Bool.and_eq_true,
        Bool.and_eq_true, beq_iff_eq, Bool.not_eq_true', ih, eq_comm (a := word),
        eq_comm (a := taken)]

/-- The alias stands at the start of the text, no longer one does, and none that is as long is of an
earlier entry. -/
structure IsBest (aliases : List Alias) (text : List Token) (a : Alias) : Prop where
  mem : a ∈ aliases
  stands : a.StandsFree text
  longest : ∀ b ∈ aliases, b.StandsFree text → b.words.length ≤ a.words.length
  earliest : ∀ b ∈ aliases, b.StandsFree text → b.words.length = a.words.length →
    a.entry ≤ b.entry

theorem eq_words_of_standsFree {a b : Alias} {text : List Token} (ha : a.StandsFree text)
    (hb : b.StandsFree text) (hlen : a.words.length = b.words.length) : a.words = b.words := by
  have hprefix := List.prefix_of_prefix_length_le ha hb (by simp [hlen])
  have heq := hprefix.eq_of_length (by simp [hlen])
  simpa [Function.comp_def] using congrArg (List.map Token.word) heq

/-- The best alias is determined by the text. -/
theorem IsBest.unique {aliases : List Alias} {text : List Token} {a b : Alias}
    (ha : IsBest aliases text a) (hb : IsBest aliases text b) : a = b := by
  have hlen := Nat.le_antisymm (hb.longest a ha.mem ha.stands) (ha.longest b hb.mem hb.stands)
  have hwords := eq_words_of_standsFree ha.stands hb.stands hlen
  have hentry := Nat.le_antisymm (ha.earliest b hb.mem hb.stands hlen.symm)
    (hb.earliest a ha.mem ha.stands hlen)
  obtain ⟨aWords, aEntry⟩ := a
  obtain ⟨bWords, bEntry⟩ := b
  rw [Alias.mk.injEq]
  exact ⟨hwords, hentry⟩

section Index

variable {entries : List (List String)} {text : List Token} {a : Alias}

theorem le_entry_of_mem_formsFrom {i : Nat} (h : a ∈ formsFrom i entries) : i ≤ a.entry := by
  induction entries generalizing i with
  | nil => cases h
  | cons forms rest ih =>
    rw [formsFrom] at h
    rcases List.mem_append.mp h with h | h
    · obtain ⟨form, -, rfl⟩ := List.mem_map.mp h
      exact Nat.le_refl i
    · exact Nat.le_of_succ_le (ih h)

theorem pairwise_formsFrom (i : Nat) (entries : List (List String)) :
    (formsFrom i entries).Pairwise fun a b => a.entry ≤ b.entry := by
  induction entries generalizing i with
  | nil => exact .nil
  | cons forms rest ih =>
    rw [formsFrom]
    refine List.pairwise_append.mpr ⟨?_, ih (i + 1), fun a ha b hb => ?_⟩
    · exact List.pairwise_map.mpr (List.pairwise_of_forall fun _ _ => Nat.le_refl i)
    · obtain ⟨form, -, rfl⟩ := List.mem_map.mp ha
      exact Nat.le_of_succ_le (le_entry_of_mem_formsFrom hb)

/-- The aliases are in the order in which they are tried: longer ones first, and equally long ones
by their entries. -/
theorem pairwise_index (entries : List (List String)) : (index entries).Pairwise fun a b =>
    b.words.length ≤ a.words.length ∧ (b.words.length = a.words.length → a.entry ≤ b.entry) := by
  have hforms : ((formsFrom 0 entries).filter fun a => !a.words.isEmpty).Pairwise
      fun a b => a.entry ≤ b.entry := (pairwise_formsFrom 0 entries).filter _
  refine (pairwise_sortBy_stable (fun a b hab => ?_) (fun a b c hab hbc => ?_) hforms).imp
    fun {a b} hab => ?_
  · simp only [decide_eq_true_iff, decide_eq_false_iff_not] at hab ⊢
    omega
  · simp only [decide_eq_false_iff_not] at hab hbc ⊢
    omega
  · simp only [decide_eq_false_iff_not, Nat.not_lt] at hab
    exact ⟨hab.1, fun he => hab.2 (Nat.le_of_eq he.symm)⟩

/-- What a scan finds at the start of a text is the best alias there. -/
theorem isBest_of_first? (h : first? (index entries) text = some a) :
    IsBest (index entries) text a := by
  obtain ⟨hmem, hstands⟩ := of_first? h
  obtain ⟨-, before, after, hsplit, hbefore⟩ := List.find?_eq_some_iff_append.mp h
  have hafter : ∀ b ∈ index entries, b.StandsFree text → b = a ∨ b ∈ after := by
    intro b hb hs
    rw [hsplit] at hb
    rcases List.mem_append.mp hb with hb | hb
    · have hn := hbefore b hb
      rw [standsAt_iff.mpr hs] at hn
      cases hn
    · exact List.mem_cons.mp hb
  have hpairwise := pairwise_index entries
  rw [hsplit] at hpairwise
  have hlater := (List.pairwise_cons.mp (List.pairwise_append.mp hpairwise).2.1).1
  refine ⟨hmem, standsAt_iff.mp hstands, fun b hb hs => ?_, fun b hb hs he => ?_⟩
  · rcases hafter b hb hs with rfl | hb
    · exact Nat.le_refl _
    · exact (hlater b hb).1
  · rcases hafter b hb hs with rfl | hb
    · exact Nat.le_refl _
    · exact (hlater b hb).2 he

theorem not_standsFree_of_first? {aliases : List Alias} (h : first? aliases text = none) :
    ∀ b ∈ aliases, ¬ b.StandsFree text := by
  intro b hb hs
  have hn := first?_eq_none.mp h b hb
  rw [standsAt_iff.mpr hs] at hn
  cases hn

end Index

structure Span where
  start : Nat
  found : Alias

def Span.stop (s : Span) : Nat := s.start + s.found.words.length

def Span.covers (s : Span) (i : Nat) : Bool := s.start ≤ i && i < s.stop

theorem Span.covers_eq_false_iff {s : Span} {i : Nat} :
    s.covers i = false ↔ i < s.start ∨ s.stop ≤ i := by
  rw [covers, Bool.and_eq_false_iff, decide_eq_false_iff_not, decide_eq_false_iff_not, Nat.not_le,
    Nat.not_lt]

def taking (spans : List Span) (text : List Token) : List Token :=
  text.mapIdx fun i t => { t with taken := t.taken || spans.any fun s => s.covers i }

section Taking

variable {spans : List Span} {text : List Token}

theorem getElem?_taking (spans : List Span) (text : List Token) (i : Nat) :
    (taking spans text)[i]? =
      text[i]?.map fun t => { t with taken := t.taken || spans.any fun s => s.covers i } :=
  List.getElem?_mapIdx

theorem length_taking (spans : List Span) (text : List Token) :
    (taking spans text).length = text.length :=
  List.length_mapIdx

theorem taking_nil (text : List Token) : taking [] text = text := by
  apply List.ext_getElem?
  intro i
  rw [getElem?_taking]
  cases text[i]? <;> simp

theorem taking_cons (s : Span) (spans : List Span) (text : List Token) :
    taking (s :: spans) text = taking spans (taking [s] text) := by
  apply List.ext_getElem?
  intro i
  rw [getElem?_taking, getElem?_taking, getElem?_taking]
  cases text[i]? <;> simp [Bool.or_assoc]

/-- Behind a span the text is as it was. -/
theorem drop_taking {s : Span} {i : Nat} (h : s.stop ≤ i) :
    (taking [s] text).drop i = text.drop i := by
  apply List.ext_getElem?
  intro j
  have hout : s.covers (i + j) = false := Span.covers_eq_false_iff.mpr (.inr (by omega))
  rw [List.getElem?_drop, List.getElem?_drop, getElem?_taking]
  cases text[i + j]? <;> simp [hout]

/-- In a span all words are taken. -/
theorem drop_taking_cons (i : Nat) (a : Alias) (spans : List Span) (text : List Token) :
    (taking (⟨i, a⟩ :: spans) text).drop i =
      ((text.drop i).take a.words.length).map (fun t => { t with taken := true }) ++
        (taking (⟨i, a⟩ :: spans) text).drop (i + a.words.length) := by
  have hspan : ((taking (⟨i, a⟩ :: spans) text).drop i).take a.words.length =
      ((text.drop i).take a.words.length).map fun t => { t with taken := true } := by
    apply List.ext_getElem?
    intro j
    rw [List.getElem?_map, List.getElem?_take, List.getElem?_take]
    by_cases hj : j < a.words.length
    · have hin : (⟨i, a⟩ : Span).covers (i + j) = true := by
        simp [Span.covers, Span.stop, hj]
      rw [if_pos hj, if_pos hj, List.getElem?_drop, List.getElem?_drop, getElem?_taking]
      cases text[i + j]? <;> simp [hin]
    · rw [if_neg hj, if_neg hj, Option.map_none]
  rw [← hspan, ← List.drop_drop, List.take_append_drop]

/-- Before the spans the text is as it was. -/
theorem getElem?_taking_of_lt {i : Nat} (h : ∀ s ∈ spans, i < s.start) :
    (taking spans text)[i]? = text[i]? := by
  have hout : (spans.any fun s => s.covers i) = false := by
    rw [List.any_eq_false]
    intro s hs
    rw [Span.covers_eq_false_iff.mpr (.inl (h s hs))]
    exact Bool.false_ne_true
  rw [getElem?_taking, hout]
  cases text[i]? <;> simp

end Taking

/-- The walk of a scan from place `i` of a text on, the spans that it finds and the text that it
leaves. It ends behind the last word. Where an alias is found its words are taken and the walk goes
on behind them, elsewhere it goes on at the next place. -/
inductive Walks (aliases : List Alias) : Nat → List Token → List Span → List Token → Prop where
  | ended {i : Nat} {text : List Token} (h : text.length ≤ i) : Walks aliases i text [] text
  | free {i : Nat} {text rest : List Token} {spans : List Span} (h : i < text.length)
      (hnone : first? aliases (text.drop i) = none) (hrest : Walks aliases (i + 1) text spans rest) :
      Walks aliases i text spans rest
  | found {i : Nat} {text rest : List Token} {spans : List Span} {a : Alias} (h : i < text.length)
      (hsome : first? aliases (text.drop i) = some a)
      (hrest : Walks aliases (i + a.words.length) (taking [⟨i, a⟩] text) spans rest) :
      Walks aliases i text (⟨i, a⟩ :: spans) rest

/-- The spans are the leftmost longest ones from place `i` of the text on. -/
structure IsSegmentation (aliases : List Alias) (text : List Token) (i : Nat) (spans : List Span) :
    Prop where
  behind : ∀ s ∈ spans, i ≤ s.start
  ordered : spans.Pairwise fun s t => s.stop ≤ t.start
  best : ∀ s ∈ spans, IsBest aliases (text.drop s.start) s.found
  complete : ∀ j, i ≤ j → (∀ s ∈ spans, s.covers j = false) →
    ∀ a ∈ aliases, ¬ a.StandsFree (text.drop j)

namespace IsSegmentation

variable {aliases : List Alias} {text : List Token} {i : Nat} {spans : List Span} {a : Alias}

theorem congr {text' : List Token} (h : IsSegmentation aliases text i spans)
    (he : ∀ j, i ≤ j → text'.drop j = text.drop j) : IsSegmentation aliases text' i spans where
  behind := h.behind
  ordered := h.ordered
  best s hs := by
    rw [he s.start (h.behind s hs)]
    exact h.best s hs
  complete j hj := by
    rw [he j hj]
    exact h.complete j hj

theorem skip (h : IsSegmentation aliases text (i + 1) spans)
    (hnone : ∀ a ∈ aliases, ¬ a.StandsFree (text.drop i)) :
    IsSegmentation aliases text i spans where
  behind s hs := Nat.le_of_succ_le (h.behind s hs)
  ordered := h.ordered
  best := h.best
  complete j hj hout := by
    by_cases he : i = j
    · exact he ▸ hnone
    · exact h.complete j (by omega) hout

theorem cons (hbest : IsBest aliases (text.drop i) a)
    (h : IsSegmentation aliases text (i + a.words.length) spans) :
    IsSegmentation aliases text i (⟨i, a⟩ :: spans) where
  behind := by
    refine List.forall_mem_cons.mpr ⟨Nat.le_refl i, fun s hs => ?_⟩
    exact Nat.le_trans (Nat.le_add_right i _) (h.behind s hs)
  ordered := List.pairwise_cons.mpr ⟨h.behind, h.ordered⟩
  best := List.forall_mem_cons.mpr ⟨hbest, h.best⟩
  complete j hj hout := by
    obtain ⟨hfirst, hrest⟩ := List.forall_mem_cons.mp hout
    rcases Span.covers_eq_false_iff.mp hfirst with hlt | hle
    · exact absurd hj (Nat.not_le.mpr hlt)
    · exact h.complete j hle hrest

theorem tail {s : Span} (h : IsSegmentation aliases text i (s :: spans)) :
    IsSegmentation aliases text s.stop spans where
  behind := (List.pairwise_cons.mp h.ordered).1
  ordered := (List.pairwise_cons.mp h.ordered).2
  best := (List.forall_mem_cons.mp h.best).2
  complete j hj hout := by
    have hstart := h.behind s List.mem_cons_self
    have hstop : s.start ≤ s.stop := Nat.le_add_right _ _
    have hfirst : s.covers j = false := Span.covers_eq_false_iff.mpr (.inr hj)
    exact h.complete j (by omega) (List.forall_mem_cons.mpr ⟨hfirst, hout⟩)

/-- No alias stands before the first span. -/
theorem start_le {s : Span} (h : IsSegmentation aliases text i (s :: spans)) {j : Nat} (hj : i ≤ j)
    (ha : a ∈ aliases) (hs : a.StandsFree (text.drop j)) : s.start ≤ j := by
  apply Nat.le_of_not_lt
  intro hlt
  have hbehind := h.tail.behind
  have hstop : s.start ≤ s.stop := Nat.le_add_right _ _
  refine h.complete j hj (fun t ht => Span.covers_eq_false_iff.mpr (.inl ?_)) a ha hs
  rcases List.mem_cons.mp ht with rfl | ht
  · exact hlt
  · have hle := hbehind t ht
    omega

/-- There are no two ways to cut a text. -/
theorem unique {spans' : List Span} (h : IsSegmentation aliases text i spans)
    (h' : IsSegmentation aliases text i spans') : spans = spans' := by
  induction spans generalizing i spans' with
  | nil =>
    cases spans' with
    | nil => rfl
    | cons s' spans' =>
      have hbest := h'.best s' List.mem_cons_self
      have hstart := h'.behind s' List.mem_cons_self
      exact absurd hbest.stands
        (h.complete s'.start hstart (fun _ hs => nomatch hs) s'.found hbest.mem)
  | cons s spans ih =>
    have hbest := h.best s List.mem_cons_self
    have hstart := h.behind s List.mem_cons_self
    cases spans' with
    | nil =>
      exact absurd hbest.stands
        (h'.complete s.start hstart (fun _ hs => nomatch hs) s.found hbest.mem)
    | cons s' spans' =>
      have hbest' := h'.best s' List.mem_cons_self
      have hstart' := h'.behind s' List.mem_cons_self
      -- Neither first span begins behind the other one, whose alias would be left out.
      have hle := h.start_le hstart' hbest'.mem hbest'.stands
      have hge := h'.start_le hstart hbest.mem hbest.stands
      have hplace : s.start = s'.start := Nat.le_antisymm hle hge
      have hfound : s.found = s'.found := by
        rw [← hplace] at hbest'
        exact hbest.unique hbest'
      have hs : s = s' := by
        obtain ⟨start, found⟩ := s
        obtain ⟨start', found'⟩ := s'
        rw [Span.mk.injEq]
        exact ⟨hplace, hfound⟩
      subst hs
      rw [ih h.tail h'.tail]

end IsSegmentation

namespace Walks

variable {aliases : List Alias} {entries : List (List String)} {i : Nat} {text rest : List Token}
  {spans : List Span}

/-- The walk takes the words in the spans that it finds. -/
theorem rest_eq (h : Walks aliases i text spans rest) : rest = taking spans text := by
  induction h with
  | ended => rw [taking_nil]
  | free _ _ _ ih => exact ih
  | found _ _ _ ih => rw [ih, ← taking_cons]

theorem isSegmentation (h : Walks (index entries) i text spans rest) :
    IsSegmentation (index entries) text i spans := by
  -- Each step looks behind the spans before it, where the text is still the one at the beginning.
  induction h with
  | @ended i text h =>
    refine ⟨fun _ hs => (nomatch hs), .nil, fun _ hs => (nomatch hs), fun j hj _ a ha hs => ?_⟩
    rw [List.drop_eq_nil_of_le (Nat.le_trans h hj), StandsFree, List.prefix_nil,
      List.map_eq_nil_iff] at hs
    exact words_ne_nil_of_index ha hs
  | free _ hnone _ ih => exact ih.skip (not_standsFree_of_first? hnone)
  | @found i text rest spans a _ hsome _ ih =>
    exact .cons (isBest_of_first? hsome) (ih.congr fun j hj => (drop_taking hj).symm)

end Walks

/-- Aliases have a word, so that the walk gets ahead at each place, and it ends. -/
theorem exists_walks {aliases : List Alias} (hne : ∀ a ∈ aliases, a.words ≠ []) (i : Nat)
    (text : List Token) : ∃ spans rest, Walks aliases i text spans rest := by
  induction hn : text.length - i using Nat.strongRecOn generalizing i text with
  | _ n ih =>
    by_cases h : text.length ≤ i
    · exact ⟨[], text, .ended h⟩
    · have hlt : i < text.length := Nat.lt_of_not_le h
      cases hf : first? aliases (text.drop i) with
      | none =>
        obtain ⟨spans, rest, hrest⟩ := ih (text.length - (i + 1)) (by omega) (i + 1) text rfl
        exact ⟨spans, rest, .free hlt hf hrest⟩
      | some a =>
        have hpos : 0 < a.words.length := List.length_pos_iff.mpr (hne a (of_first? hf).1)
        obtain ⟨spans, rest, hrest⟩ := ih (text.length - (i + a.words.length)) (by omega)
          (i + a.words.length) (taking [⟨i, a⟩] text) (by rw [length_taking])
        exact ⟨⟨i, a⟩ :: spans, rest, .found hlt hf hrest⟩

section Scanning

variable {aliases : List Alias} {text : List Token}

/-- The words of an alias that has been found are taken, whatever they are. -/
theorem scanFrom_skip (aliases : List Alias) (skip : Nat) (text : List Token) :
    scanFrom aliases skip text = ((scanFrom aliases 0 (text.drop skip)).1,
      (text.take skip).map (fun t => { t with taken := true }) ++
        (scanFrom aliases 0 (text.drop skip)).2) := by
  induction skip generalizing text with
  | zero => rfl
  | succ skip ih =>
    cases text with
    | nil => rw [scanFrom_nil, List.drop_nil, scanFrom_nil, List.take_nil, List.map_nil,
        List.nil_append]
    | cons t ts =>
      rw [scanFrom, ih ts, List.drop_succ_cons, List.take_succ_cons, List.map_cons,
        List.cons_append]

theorem scanFrom_of_some {a : Alias} (hne : a.words ≠ []) (h : first? aliases text = some a)
    (htext : text ≠ []) : scanFrom aliases 0 text =
      (a :: (scanFrom aliases 0 (text.drop a.words.length)).1,
        (text.take a.words.length).map (fun t => { t with taken := true }) ++
          (scanFrom aliases 0 (text.drop a.words.length)).2) := by
  obtain ⟨t, ts, rfl⟩ := List.exists_cons_of_ne_nil htext
  obtain ⟨n, hn⟩ : ∃ n, a.words.length = n + 1 :=
    Nat.exists_eq_succ_of_ne_zero (mt List.length_eq_zero_iff.mp hne)
  rw [scanFrom_cons_of_some h, hn, Nat.add_sub_cancel, scanFrom_skip, List.drop_succ_cons,
    List.take_succ_cons, List.map_cons, List.cons_append]

end Scanning

/-- What a walk finds is what the scan finds from its place on, and it leaves the same text. -/
theorem Walks.scanFrom_eq {entries : List (List String)} {i : Nat} {text rest : List Token}
    {spans : List Span} (h : Walks (index entries) i text spans rest) :
    scanFrom (index entries) 0 (text.drop i) = (spans.map Span.found, rest.drop i) := by
  induction h with
  | ended h => rw [List.drop_eq_nil_of_le h, scanFrom_nil, List.map_nil]
  | @free i text rest spans h hnone hrest ih =>
    have hhead : rest[i]? = text[i]? := by
      rw [hrest.rest_eq]
      exact getElem?_taking_of_lt hrest.isSegmentation.behind
    have hlen : i < rest.length := by rwa [hrest.rest_eq, length_taking]
    rw [List.getElem?_eq_getElem h, List.getElem?_eq_getElem hlen, Option.some_inj] at hhead
    rw [List.drop_eq_getElem_cons h] at hnone ⊢
    rw [scanFrom_cons_of_none hnone, ih, List.drop_eq_getElem_cons hlen, hhead]
  | @found i text rest spans a h hsome hrest ih =>
    have htext : text.drop i ≠ [] := by
      rw [ne_eq, List.drop_eq_nil_iff]
      omega
    have hbehind : (taking [⟨i, a⟩] text).drop (i + a.words.length) =
        text.drop (i + a.words.length) := drop_taking (Nat.le_refl _)
    have hleft : rest = taking (⟨i, a⟩ :: spans) text := by rw [hrest.rest_eq, ← taking_cons]
    rw [hbehind, hleft] at ih
    rw [scanFrom_of_some (words_ne_nil_of_index (of_first? hsome).1) hsome htext, List.drop_drop,
      ih, hleft, ← drop_taking_cons, List.map_cons]

structure AreFirstOf (firsts all : List Nat) : Prop where
  nodup : firsts.Nodup
  mem : ∀ e, e ∈ firsts ↔ e ∈ all
  ordered : firsts.Pairwise fun e f => all.idxOf e < all.idxOf f

/-- The walk through a text ends, and it leaves the text that the scan leaves. It cuts the text into
the leftmost longest spans, which are the only ones of this kind. The scan gives the entries of the
spans in the order in which they appear first, each of them once, and it takes the words in the
spans and no others. -/
theorem scan_segments (entries : List (List String)) (text : List Token) : ∃ spans,
    Walks (index entries) 0 text spans (scan (index entries) text).2 ∧
    (∀ spans', IsSegmentation (index entries) text 0 spans' ↔ spans' = spans) ∧
    AreFirstOf (scan (index entries) text).1 (spans.map fun s => s.found.entry) ∧
    (scan (index entries) text).2 = taking spans text := by
  have hne : ∀ a ∈ index entries, a.words ≠ [] := fun _ => words_ne_nil_of_index
  obtain ⟨spans, rest, hwalk⟩ := exists_walks hne 0 text
  have hscan : scan (index entries) text =
      ((spans.map fun s => s.found.entry).eraseDups, rest) := by
    have hfrom := hwalk.scanFrom_eq
    rw [List.drop_zero, List.drop_zero] at hfrom
    rw [scan, hfrom]
    dsimp only
    rw [List.map_map]
    rfl
  have hcut := hwalk.isSegmentation
  rw [hscan]
  refine ⟨spans, hwalk, fun spans' => ⟨fun h => h.unique hcut, fun he => he ▸ hcut⟩, ?_,
    hwalk.rest_eq⟩
  exact ⟨nodup_eraseDups _, fun _ => List.mem_eraseDups, pairwise_idxOf_eraseDups _⟩

/-- A text that is one alias from end to end. -/
theorem scan_of_whole {entries : List (List String)} {text : List Token} {a : Alias}
    (ha : IsBest (index entries) text a) (hlen : a.words.length = text.length) :
    scan (index entries) text = ([a.entry], text.map fun t => { t with taken := true }) := by
  have hne := words_ne_nil_of_index ha.mem
  have htext : text ≠ [] := by
    rintro rfl
    exact hne (List.length_eq_zero_iff.mp hlen)
  obtain ⟨b, hb⟩ : ∃ b, first? (index entries) text = some b := by
    rw [← Option.ne_none_iff_exists']
    intro hn
    exact not_standsFree_of_first? hn a ha.mem ha.stands
  obtain rfl : b = a := (isBest_of_first? hb).unique ha
  rw [scan, scanFrom_of_some hne hb htext, hlen, List.drop_length, scanFrom_nil, List.take_length,
    List.append_nil]
  rfl

end Alias

end BankQuery
