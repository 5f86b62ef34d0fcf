import BankQuery.Json.Reader
import BankQuery.Json.Writer
import BankQuery.Proofs.Calendar.Text
import Mathlib.Tactic.SplitIfs

/-!
# What is written is read back

`Json.Reads` says of a value that its compact text, with anything behind it that ends a value, is
read as that value. Strings of any characters have it, natural numbers of a machine word, and arrays
and objects of what has it.
-/

namespace BankQuery.Json

section Strings

variable {s : Scanned} {c : Char}

theorem readString_plain (hquote : c ≠ '"') (hslash : c ≠ '\\') (hc : ¬ c.toNat < 32)
    (rest : List Char) : readString s (c :: rest) = readString (s.push c) rest := by
  rw [readString]
  · rw [if_neg (not_or.mpr ⟨hc, hslash⟩)]
  · exact hquote
  · exact fun _ _ _ _ _ h => (hslash h).elim
  · exact fun _ _ h => (hslash h).elim

theorem hex4?_lowerHex :
    ∀ n < 32, hex4? '0' '0' (lowerHex (n / 16)) (lowerHex (n % 16)) = some n := by
  decide

theorem readString_unit (hs : s.high = none) {n : Nat} (hn : n < 32) (rest : List Char) :
    readString s ('\\' :: 'u' :: '0' :: '0' :: lowerHex (n / 16) :: lowerHex (n % 16) :: rest) =
      readString (s.push (Char.ofNat n)) rest := by
  have hunit : s.unit n = s.push (Char.ofNat n) := by
    have hhigh : isHighSurrogate n = false := by
      simp only [isHighSurrogate, Bool.and_eq_false_iff, decide_eq_false_iff_not]
      omega
    have hlow : isLowSurrogate n = false := by
      simp only [isLowSurrogate, Bool.and_eq_false_iff, decide_eq_false_iff_not]
      omega
    simp only [Scanned.unit, hs, hhigh, hlow, Bool.false_eq_true, if_false]
  simp only [readString, hex4?_lowerHex n hn, hunit]

/-- However a character is written, it is read as itself. -/
theorem readString_escape (hs : s.high = none) (rest : List Char) :
    readString s (escape c ++ rest) = readString (s.push c) rest := by
  have hcode {n : Nat} (hc : c.toNat = n) : c = Char.ofNat n := hc ▸ (Char.ofNat_toNat c).symm
  unfold escape
  split_ifs with hquote hslash hline hreturn htab hback hfeed hcontrol
  · rw [hquote]
    rfl
  · rw [hslash]
    rfl
  · rw [hline]
    rfl
  · rw [hreturn]
    rfl
  · rw [htab]
    rfl
  · rw [hcode hback]
    rfl
  · rw [hcode hfeed]
    rfl
  · have hread := readString_unit hs hcontrol rest
    rwa [Char.ofNat_toNat] at hread
  · exact readString_plain hquote hslash hcontrol rest

theorem readString_flatMap (hs : s.high = none) (hsound : s.sound = true) (cs rest : List Char) :
    readString s (cs.flatMap escape ++ '"' :: rest) =
      some (.string (String.ofList (s.done.reverse ++ cs)), rest) := by
  induction cs generalizing s with
  | nil =>
    change some (s.value, rest) = _
    simp only [Scanned.value, hs, hsound, Option.isNone_none, Bool.and_self, if_true,
      List.append_nil]
  | cons c cs ih =>
    rw [List.flatMap_cons, List.append_assoc, readString_escape hs,
      ih rfl (by simp only [Scanned.push, hs, hsound, Option.isNone_none, Bool.and_self])]
    simp only [Scanned.push, List.reverse_cons, List.append_assoc, List.singleton_append]

theorem toList_quote (t : String) (rest : List Char) :
    (quote t).toList ++ rest = '"' :: (t.toList.flatMap escape ++ '"' :: rest) := by
  have hmark : "\"".toList = ['"'] := rfl
  simp only [quote, String.toList_append, String.toList_ofList, hmark, List.append_assoc,
    List.cons_append, List.nil_append]

theorem readString_quote (t : String) (rest : List Char) :
    readString {} (t.toList.flatMap escape ++ '"' :: rest) = some (.string t, rest) := by
  rw [readString_flatMap rfl rfl]
  exact congrArg (fun u => some (Json.string u, rest)) String.ofList_toList

end Strings

/-- What may stand behind a value in a compact text. -/
def Ends (rest : List Char) : Prop := ∀ c ∈ rest.head?, c = ',' ∨ c = ']' ∨ c = '\x7d'

def isSpace (c : Char) : Bool := c == ' ' || c == '\n' || c == '\t' || c == '\r'

theorem skipBlanks_cons {c : Char} (hc : isSpace c = false) (rest : List Char) :
    skipBlanks (c :: rest) = c :: rest :=
  List.dropWhile_cons_of_neg (by rw [← isSpace, hc]; exact Bool.false_ne_true)

structure Reads (j : Json) : Prop where
  first : ∃ c cs, j.write.toList = c :: cs ∧ isSpace c = false ∧ c ≠ ']'
  value : ∀ n rest, j.write.toList.length < n → Ends rest →
    readValue n (j.write.toList ++ rest) = some (j, rest)

theorem reads_null : Reads .null where
  first := ⟨'n', ['u', 'l', 'l'], rfl, by decide, by decide⟩
  value
  | n + 1, _, _, _ => rfl

theorem reads_string (t : String) : Reads (.string t) where
  first := by
    refine ⟨'"', t.toList.flatMap escape ++ ['"'], ?_, by decide, by decide⟩
    rw [write, ← List.append_nil (quote t).toList, toList_quote]
  value
  | n + 1, rest, _, _ => by
    rw [write, toList_quote]
    exact readString_quote t rest

section Numbers

variable {ds : List Char}

theorem le_natOfDigits (n : Nat) (ds : List Nat) : n ≤ ds.foldl (fun n d => n * 10 + d) n := by
  induction ds generalizing n with
  | nil => exact Nat.le_refl n
  | cons d ds ih => exact Nat.le_trans (by omega) (ih (n * 10 + d))

theorem takeDigits_eq {n : Nat} {ds : List Nat}
    (h : ds.foldl (fun n d => n * 10 + d) n < Number.word) :
    Number.takeDigits n ds = (ds.foldl (fun n d => n * 10 + d) n, []) := by
  induction ds generalizing n with
  | nil => rfl
  | cons d ds ih =>
    have hd : n * 10 + d < Number.word := Nat.lt_of_le_of_lt (le_natOfDigits _ ds) h
    rw [Number.takeDigits, if_pos hd]
    exact ih h

theorem natOfDigits_digitValues (ds : List Char) :
    natOfDigits (digitValues ds) = Date.digitsToNat ds := by
  rw [natOfDigits, digitValues, List.foldl_map]
  rfl

/-- No number but zero begins with a zero. -/
theorem toDigits_ne_zero_cons (n : Nat) (c : Char) (cs : List Char) :
    Nat.toDigits 10 n ≠ '0' :: c :: cs := by
  intro h
  have hdigits : (c :: cs).all Char.isDigit = true := List.all_eq_true.mpr fun d hd =>
    Nat.isDigit_of_mem_toDigits (by decide) (by decide) (h ▸ List.mem_cons_of_mem '0' hd)
  have hvalue : Date.digitsToNat (c :: cs) = n := by
    rw [Date.digitsToNat_eq, ← Nat.ofDigitChars_ten_toDigits (n := n), h]
    rfl
  have hlt : n < 10 ^ (c :: cs).length := hvalue ▸ Date.digitsToNat_lt hdigits
  have hlength := (Nat.length_toDigits_le_iff (by decide : 1 < 10) (Nat.succ_pos _)).mpr hlt
  simp only [h, List.length_cons] at hlength
  omega

theorem readWhole_toDigits (n : Nat) {rest : List Char} (hr : Ends rest) :
    readWhole (Nat.toDigits 10 n ++ rest) = some (digitValues (Nat.toDigits 10 n), rest) := by
  have hd : ∀ c ∈ Nat.toDigits 10 n, c.isDigit = true := fun _ =>
    Nat.isDigit_of_mem_toDigits (by decide) (by decide)
  have hnone : rest.takeWhile Char.isDigit = [] := by
    cases rest with
    | nil => rfl
    | cons c rest =>
      refine List.takeWhile_cons_of_neg ?_
      rcases hr c rfl with rfl | rfl | rfl <;> decide
  unfold readWhole
  rw [List.takeWhile_append_of_pos hd, hnone, List.append_nil]
  dsimp only
  split
  · rename_i h
    exact absurd h Nat.toDigits_ne_nil
  · rename_i h
    rw [h]
    rfl
  · rename_i ds hne h
    obtain ⟨c, cs, rfl⟩ := List.exists_cons_of_ne_nil (l := ds) hne
    exact absurd h (toDigits_ne_zero_cons n c cs)
  · rw [List.drop_left]

theorem readNumber_toDigits {n : Nat} (hn : n < Number.word) {rest : List Char} (hr : Ends rest) :
    readNumber false (Nat.toDigits 10 n ++ rest) = some (.int n, rest) := by
  have hfraction : readFraction rest = some (none, rest) := by
    cases rest with
    | nil => rfl
    | cons c rest => rcases hr c rfl with rfl | rfl | rfl <;> rfl
  have hexponent : readExponent rest = some (none, rest) := by
    cases rest with
    | nil => rfl
    | cons c rest => rcases hr c rfl with rfl | rfl | rfl <;> rfl
  have hvalue : natOfDigits (digitValues (Nat.toDigits 10 n)) = n := by
    rw [natOfDigits_digitValues, Date.digitsToNat_eq, Nat.ofDigitChars_ten_toDigits]
  have htake : Number.takeDigits 0 (digitValues (Nat.toDigits 10 n)) = (n, []) := by
    have hlt : natOfDigits (digitValues (Nat.toDigits 10 n)) < Number.word := hvalue.symm ▸ hn
    rw [takeDigits_eq hlt]
    exact congrArg (·, []) hvalue
  simp only [readNumber, readWhole_toDigits n hr, hfraction, hexponent, Option.bind_eq_bind,
    Option.bind_some, Number.ofDigits?, htake, Bool.not_false, if_true]
  rfl

theorem reads_nat {n : Nat} (hn : n < Number.word) : Reads (.int n) := by
  have hwrite : (write (.int n)).toList = Nat.toDigits 10 n := Nat.toList_repr
  obtain ⟨c, cs, hcs⟩ := List.exists_cons_of_ne_nil (Nat.toDigits_ne_nil (n := n) (b := 10))
  have hc : c.isDigit = true := Nat.isDigit_of_mem_toDigits (b := 10) (n := n) (by decide)
    (by decide) (hcs ▸ List.mem_cons_self)
  have hne {d : Char} (hd : d.isDigit = false) : c ≠ d := by
    rintro rfl
    rw [hc] at hd
    cases hd
  have hspace : isSpace c = false := by
    simp [isSpace, hne (d := ' ') rfl, hne (d := '\n') rfl, hne (d := '\t') rfl,
      hne (d := '\r') rfl]
  refine ⟨⟨c, cs, hwrite.trans hcs, hspace, hne rfl⟩, ?_⟩
  rintro (_ | n') rest hl hr
  · omega
  · have hread := readNumber_toDigits hn hr
    rw [hwrite]
    rw [hcs] at hread ⊢
    rw [List.cons_append] at hread ⊢
    rw [readValue, skipBlanks_cons hspace]
    split
    all_goals first
      | exact hread
      | rename_i h
        exact absurd (List.cons.inj h).1 (hne rfl)

end Numbers

theorem ends_comma (rest : List Char) : Ends (',' :: rest) := fun _ h =>
  .inl (Option.some.inj h).symm

section Arrays

variable {item : Json} {items : List Json}

theorem toList_writeItems_nil (rest : List Char) :
    (writeItems []).toList ++ rest = ']' :: rest := rfl

theorem toList_writeItems_cons (rest : List Char) : (writeItems (item :: items)).toList ++ rest =
    ',' :: (item.write.toList ++ ((writeItems items).toList ++ rest)) := by
  have hcomma : ",".toList = [','] := rfl
  simp only [writeItems, String.toList_append, hcomma, List.append_assoc, List.cons_append,
    List.nil_append]

theorem ends_writeItems (items : List Json) (rest : List Char) :
    Ends ((writeItems items).toList ++ rest) := by
  cases items with
  | nil => exact fun _ h => .inr (.inl (Option.some.inj h).symm)
  | cons item items =>
    rw [toList_writeItems_cons]
    exact ends_comma _

theorem readItems_writeItems (hi : item.Reads) (his : ∀ i ∈ items, i.Reads) (done : List Json)
    (n : Nat) (rest : List Char)
    (hn : (item.write.toList ++ (writeItems items).toList).length < n) :
    readItems n done (item.write.toList ++ ((writeItems items).toList ++ rest)) =
      some (.array (done.reverse ++ item :: items), rest) := by
  induction items generalizing item done n with
  | nil =>
    obtain ⟨n, rfl⟩ := Nat.exists_eq_succ_of_ne_zero (Nat.ne_zero_of_lt hn)
    simp only [List.length_append] at hn
    have hlast : 0 < (writeItems []).toList.length := by decide
    rw [readItems, hi.value n _ (by omega) (ends_writeItems [] rest), toList_writeItems_nil]
    simp only [skipBlanks_cons (c := ']') rfl, List.reverse_cons]
  | cons next items ih =>
    obtain ⟨n, rfl⟩ := Nat.exists_eq_succ_of_ne_zero (Nat.ne_zero_of_lt hn)
    have hlength := congrArg List.length (@toList_writeItems_cons next items [])
    simp only [List.length_append, List.length_cons, List.length_nil] at hn hlength
    rw [readItems, hi.value n _ (by omega) (ends_writeItems _ rest), toList_writeItems_cons]
    simp only [skipBlanks_cons (c := ',') rfl]
    rw [ih (his next List.mem_cons_self) (fun i h => his i (List.mem_cons_of_mem next h)) _ n
      (by rw [List.length_append]; omega)]
    simp only [List.reverse_cons, List.append_assoc, List.singleton_append]

theorem reads_array (h : ∀ i ∈ items, i.Reads) : Reads (.array items) := by
  cases items with
  | nil =>
    refine ⟨⟨'[', [']'], rfl, by decide, by decide⟩, fun n rest hn _ => ?_⟩
    obtain ⟨n, rfl⟩ := Nat.exists_eq_succ_of_ne_zero (Nat.ne_zero_of_lt hn)
    rfl
  | cons item items =>
    have hopen : "[".toList = ['['] := rfl
    have hwrite : (write (.array (item :: items))).toList =
        '[' :: (item.write.toList ++ (writeItems items).toList) := by
      simp only [write, String.toList_append, hopen, List.cons_append, List.nil_append]
    refine ⟨⟨'[', _, hwrite, by decide, by decide⟩, fun n rest hn _ => ?_⟩
    obtain ⟨n, rfl⟩ := Nat.exists_eq_succ_of_ne_zero (Nat.ne_zero_of_lt hn)
    have hitem := h item List.mem_cons_self
    have hitems := readItems_writeItems hitem (fun i hi => h i (List.mem_cons_of_mem item hi)) [] n
      rest (by rw [hwrite, List.length_cons] at hn; omega)
    obtain ⟨c, cs, hcs, hspace, hclose⟩ := hitem.first
    rw [hwrite, List.cons_append, List.append_assoc, readValue, skipBlanks_cons (by decide)]
    rw [hcs, List.cons_append] at hitems ⊢
    simp only [skipBlanks_cons hspace]
    split
    · rename_i he
      exact absurd (List.cons.inj he).1 hclose
    · exact hitems

end Arrays

section Objects

variable {name : String} {value : Json} {members : List (String × Json)}

theorem toList_writeMembers_nil (rest : List Char) :
    (writeMembers []).toList ++ rest = '\x7d' :: rest := rfl

theorem toList_writeMembers_cons (rest : List Char) :
    (writeMembers ((name, value) :: members)).toList ++ rest = ',' :: ((quote name).toList ++
      ':' :: (value.write.toList ++ ((writeMembers members).toList ++ rest))) := by
  have hcomma : ",".toList = [','] := rfl
  have hcolon : ":".toList = [':'] := rfl
  simp only [writeMembers, String.toList_append, hcomma, hcolon, List.append_assoc,
    List.cons_append, List.nil_append]

theorem ends_writeMembers (members : List (String × Json)) (rest : List Char) :
    Ends ((writeMembers members).toList ++ rest) := by
  cases members with
  | nil => exact fun _ h => .inr (.inr (Option.some.inj h).symm)
  | cons m members =>
    rw [toList_writeMembers_cons]
    exact ends_comma _

theorem ofMembers_map (members : List (String × Json)) :
    ofMembers (members.map fun m => (.string m.1, m.2)) = .object members := by
  have h : (members.map fun m => (Json.string m.1, m.2)).mapM
      (fun m => m.1.text?.map (·, m.2)) = some members := by
    induction members with
    | nil => rfl
    | cons m members ih =>
      rw [List.map_cons, List.mapM_cons, ih]
      rfl
  rw [ofMembers, h]

theorem readMembers_writeMembers (hv : value.Reads) (hms : ∀ m ∈ members, m.2.Reads)
    (done : List (Json × Json)) (n : Nat) (rest : List Char)
    (hn : ((quote name).toList ++ ':' :: (value.write.toList ++
      (writeMembers members).toList)).length < n) :
    readMembers n done ((quote name).toList ++
        ':' :: (value.write.toList ++ ((writeMembers members).toList ++ rest))) =
      some (ofMembers (done.reverse ++ ((name, value) :: members).map
        fun m => (.string m.1, m.2)), rest) := by
  induction members generalizing name value done n with
  | nil =>
    obtain ⟨n, rfl⟩ := Nat.exists_eq_succ_of_ne_zero (Nat.ne_zero_of_lt hn)
    simp only [List.length_append, List.length_cons] at hn
    rw [toList_quote, readMembers, skipBlanks_cons (by decide)]
    simp only [readString_quote, skipBlanks_cons (c := ':') rfl]
    rw [hv.value n _ (by omega) (ends_writeMembers [] rest), toList_writeMembers_nil]
    simp only [skipBlanks_cons (c := '\x7d') rfl, List.reverse_cons, List.map_cons, List.map_nil]
  | cons m members ih =>
    obtain ⟨n, rfl⟩ := Nat.exists_eq_succ_of_ne_zero (Nat.ne_zero_of_lt hn)
    obtain ⟨next, other⟩ := m
    have hlength := congrArg List.length (@toList_writeMembers_cons next other members [])
    simp only [List.length_append, List.length_cons, List.length_nil] at hn hlength
    rw [toList_quote, readMembers, skipBlanks_cons (by decide)]
    simp only [readString_quote, skipBlanks_cons (c := ':') rfl]
    rw [hv.value n _ (by omega) (ends_writeMembers _ rest), toList_writeMembers_cons]
    simp only [skipBlanks_cons (c := ',') rfl]
    rw [ih (hms _ List.mem_cons_self) (fun k h => hms k (List.mem_cons_of_mem _ h)) _ n
      (by simp only [List.length_append, List.length_cons]; omega)]
    simp only [List.reverse_cons, List.append_assoc, List.singleton_append, List.map_cons]

theorem reads_object (h : ∀ m ∈ members, m.2.Reads) : Reads (.object members) := by
  cases members with
  | nil =>
    refine ⟨⟨'\x7b', ['\x7d'], rfl, by decide, by decide⟩, fun n rest hn _ => ?_⟩
    obtain ⟨n, rfl⟩ := Nat.exists_eq_succ_of_ne_zero (Nat.ne_zero_of_lt hn)
    rfl
  | cons m members =>
    have hopen : "\x7b".toList = ['\x7b'] := rfl
    have hcolon : ":".toList = [':'] := rfl
    have hwrite : (write (.object (m :: members))).toList = '\x7b' :: ((quote m.1).toList ++
        ':' :: (m.2.write.toList ++ (writeMembers members).toList)) := by
      simp only [write, String.toList_append, hopen, hcolon, List.append_assoc, List.cons_append,
        List.nil_append]
    refine ⟨⟨'\x7b', _, hwrite, by decide, by decide⟩, fun n rest hn _ => ?_⟩
    obtain ⟨n, rfl⟩ := Nat.exists_eq_succ_of_ne_zero (Nat.ne_zero_of_lt hn)
    have hmembers := @readMembers_writeMembers m.1 m.2 members (h m List.mem_cons_self)
      (fun k hk => h k (List.mem_cons_of_mem m hk)) [] n rest
      (by rw [hwrite, List.length_cons] at hn; omega)
    rw [hwrite]
    simp only [List.cons_append, List.append_assoc] at hmembers ⊢
    rw [readValue, skipBlanks_cons (by decide)]
    rw [toList_quote] at hmembers ⊢
    simp only [skipBlanks_cons (c := '"') rfl]
    rw [hmembers, List.reverse_nil, List.nil_append, ofMembers_map]
    rfl

end Objects

/-- What is read in full is the value that was written. -/
theorem Reads.read?_write {j : Json} (h : j.Reads) : read? j.write = some j := by
  have hvalue := h.value (j.write.length + 1) []
    (by rw [String.length_toList]; exact Nat.lt_succ_self _) (fun _ hc => by cases hc)
  rw [List.append_nil] at hvalue
  rw [read?, hvalue]
  rfl

end BankQuery.Json
