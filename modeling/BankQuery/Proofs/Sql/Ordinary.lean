import BankQuery.Guard.Screen
import BankQuery.Sql.Grammar.Operand
import BankQuery.Sql.Lexer

/-!
# Ordinary names

A word is made of ASCII letters, digits and underscores and does not begin with a digit. It is
ordinary if its upper-case form is none of the words that the grammar or the guard reacts to where a
name may stand. A keyword such as `PERIOD`, to which nothing reacts there, may be an ordinary name.

Both are kept when letters change their case.
-/

namespace BankQuery.Sql

open Text

def isWordLetter (c : Char) : Bool := c.isAlphanum || c == '_'

structure IsWord (s : String) : Prop where
  first : ∀ c ∈ s.toList.head?, c.isDigit = false
  letters : ∀ c ∈ s.toList, isWordLetter c = true
  nonempty : s.toList ≠ []

/-- Words that do not stand for a name: the forbidden ones, those with a form of their own, those
that a type begins with, and those that are looked for in front of a name. -/
def reserved : List String :=
  Guard.forbiddenWords ++ Grammar.sessionWords ++ Grammar.timeWords ++ typeWords.map Prod.fst ++ [
    "TRUE", "FALSE", "NULL", "CASE", "CAST", "TRY_CAST", "SAFE_CAST", "EXISTS", "EXTRACT", "CEIL",
    "FLOOR", "POSITION", "SUBSTRING", "OVERLAY", "TRIM", "INTERVAL", "LISTAGG", "ARRAY",
    "ARRAY_AGG", "NOT", "DOUBLE", "CHARACTER", "CHAR", "ALL", "ANY", "DISTINCT", "TOP", "LATERAL",
    "TABLE", "UNNEST", "GROUPING", "CUBE", "ROLLUP"]

structure IsOrdinary (s : String) : Prop extends IsWord s where
  free : upper s ∉ reserved

structure IsAllowed (s : String) : Prop extends IsWord s where
  allowed : upper s ∉ Guard.forbiddenWords

theorem IsOrdinary.isAllowed {s : String} (h : IsOrdinary s) : IsAllowed s where
  toIsWord := h.toIsWord
  allowed := fun hm => h.free (by simp [reserved, hm])

section Letters

variable {c : Char}

theorem val_lt_of_isWordLetter (h : isWordLetter c = true) :
    48 ≤ c.val.toNat ∧ c.val.toNat ≤ 57 ∨ 65 ≤ c.val.toNat ∧ c.val.toNat ≤ 90 ∨
      c.val.toNat = 95 ∨ 97 ≤ c.val.toNat ∧ c.val.toNat ≤ 122 := by
  change (((decide (c.val ≥ 65 ∧ c.val ≤ 90) || (decide (c.val ≥ 97) && decide (c.val ≤ 122))) ||
    (decide (c.val ≥ 48) && decide (c.val ≤ 57))) || c == '_') = true at h
  simp only [Bool.or_eq_true, Bool.and_eq_true, decide_eq_true_eq, UInt32.le_iff_toNat_le,
    ge_iff_le, beq_iff_eq] at h
  rcases h with ((h | h) | h) | rfl
  · exact .inr (.inl h)
  · exact .inr (.inr (.inr h))
  · exact .inl h
  · exact .inr (.inr (.inl rfl))

theorem isWordLetter_classes : ∀ n < 123,
    (48 ≤ n ∧ n ≤ 57 ∨ 65 ≤ n ∧ n ≤ 90 ∨ n = 95 ∨ 97 ≤ n ∧ n ≤ 122) →
      (isNamePart (Char.ofNat n) && isWordChar (Char.ofNat n) && !isBlank (Char.ofNat n) &&
        ((Char.ofNat n).isDigit || isNameStart (Char.ofNat n))) = true := by
  decide

theorem classes_of_isWordLetter (h : isWordLetter c = true) :
    isNamePart c = true ∧ isWordChar c = true ∧ isBlank c = false ∧
      (c.isDigit = false → isNameStart c = true) := by
  have hv := val_lt_of_isWordLetter h
  have hc := isWordLetter_classes c.val.toNat (by omega) hv
  rw [show Char.ofNat c.val.toNat = c from Char.ofNat_toNat c] at hc
  simp only [Bool.and_eq_true, Bool.not_eq_eq_eq_not, Bool.not_true, Bool.or_eq_true] at hc
  obtain ⟨⟨⟨hp, hw⟩, hb⟩, hs⟩ := hc
  exact ⟨hp, hw, hb, fun hd => hs.resolve_left (by simp [hd])⟩

theorem toLower_classes : ∀ n < 128,
    isWordLetter (Char.ofNat n).toLower = isWordLetter (Char.ofNat n) ∧
      (Char.ofNat n).toLower.isDigit = (Char.ofNat n).isDigit ∧
      (Char.ofNat n).toLower.toUpper = (Char.ofNat n).toUpper := by
  decide

theorem classes_toLower (c : Char) : isWordLetter c.toLower = isWordLetter c ∧
    c.toLower.isDigit = c.isDigit ∧ c.toLower.toUpper = c.toUpper := by
  by_cases hc : c.val.toNat < 128
  · have h := toLower_classes c.val.toNat hc
    rwa [show Char.ofNat c.val.toNat = c from Char.ofNat_toNat c] at h
  · have h : c.toLower = c := dif_neg (by
      rintro ⟨-, hz⟩
      have hz : c.val.toNat ≤ 90 := hz
      omega)
    rw [h]
    exact ⟨rfl, rfl, rfl⟩

end Letters

namespace IsWord

variable {s a b : String}

theorem toList_upper (h : IsWord s) : (upper s).toList = s.toList.map Char.toUpper := by
  have hc : s.toList.map upperChar = s.toList.map fun c => [c.toUpper] := by
    refine List.map_congr_left fun c hc => ?_
    have hv := val_lt_of_isWordLetter (h.letters c hc)
    rw [upperChar, if_pos (by omega)]
  rw [upper, String.toList_ofList, List.flatMap_def, hc, ← List.flatMap_def, List.map_eq_flatMap]

/-- A name that differs from a word in the case of letters only is a word. -/
theorem of_sameAscii (h : IsWord a) (hs : sameAscii a b = true) : IsWord b := by
  have he : a.toList.map Char.toLower = b.toList.map Char.toLower :=
    String.ofList_injective (sameAscii_iff.mp hs)
  have hletters : ∀ c ∈ b.toList, isWordLetter c = true := by
    intro c hc
    have hm : c.toLower ∈ a.toList.map Char.toLower := he ▸ List.mem_map_of_mem hc
    obtain ⟨d, hd, hdc⟩ := List.mem_map.mp hm
    rw [← (classes_toLower c).1, ← hdc, (classes_toLower d).1]
    exact h.letters d hd
  refine ⟨fun c hc => ?_, hletters, fun hb => ?_⟩
  · have hh : (a.toList.map Char.toLower).head? = some c.toLower := by
      rw [he, List.head?_map, hc]
      rfl
    rw [List.head?_map] at hh
    obtain ⟨d, hd, hdc⟩ := Option.map_eq_some_iff.mp hh
    rw [← (classes_toLower c).2.1, ← hdc, (classes_toLower d).2.1]
    exact h.first d hd
  · rw [hb] at he
    exact h.nonempty (List.map_eq_nil_iff.mp he)

end IsWord

theorem IsOrdinary.of_sameAscii {a b : String} (h : IsOrdinary a) (hs : sameAscii a b = true) :
    IsOrdinary b where
  toIsWord := h.toIsWord.of_sameAscii hs
  free := upper_eq_of_sameAscii hs ▸ h.free

theorem isWord_iff {s : String} : (s.toList.head?.all fun c => !c.isDigit) = true ∧
    s.toList.all isWordLetter = true ∧ s.toList ≠ [] ↔ IsWord s := by
  refine ⟨fun ⟨hfirst, hletters, hne⟩ => ⟨fun c hc => ?_, List.all_eq_true.mp hletters, hne⟩,
    fun h => ⟨?_, List.all_eq_true.mpr h.letters, h.nonempty⟩⟩
  · rw [Option.mem_def.mp hc] at hfirst
    simpa using hfirst
  · cases hc : s.toList.head? with
    | none => rfl
    | some c => simp [h.first c hc]

instance (s : String) : Decidable (IsWord s) := decidable_of_iff _ isWord_iff

instance (s : String) : Decidable (IsAllowed s) :=
  decidable_of_iff (IsWord s ∧ upper s ∉ Guard.forbiddenWords)
    ⟨fun h => ⟨h.1, h.2⟩, fun h => ⟨h.toIsWord, h.allowed⟩⟩

instance (s : String) : Decidable (IsOrdinary s) :=
  decidable_of_iff (IsWord s ∧ upper s ∉ reserved)
    ⟨fun h => ⟨h.1, h.2⟩, fun h => ⟨h.toIsWord, h.free⟩⟩

/-- The words that a report is written with, its names apart. -/
def connectives : List String := [
  "SELECT", "AS", "FROM", "WHERE", "IN", "BETWEEN", "AND", "GROUP", "BY", "ORDER", "ASC", "DESC",
  "NULLS", "LAST", "LIMIT"]

theorem isAllowed_of_connective : ∀ s ∈ connectives, IsAllowed s := by
  decide +kernel

theorem keyword_of_connective {s : String} (hs : s ∈ connectives) :
    (Word.bare s).keyword = s := by
  have h : ∀ s ∈ connectives, upper s = s := by decide
  exact h s hs

theorem keyword_ne_of_connective {s word : String} (hs : s ∈ connectives) (hne : s ≠ word)
    (ts : List Token) :
    ∀ t ∈ (Token.word (.bare s) :: ts).head?, t.keyword ≠ word := by
  rintro t ⟨⟩ he
  exact hne ((keyword_of_connective hs).symm.trans he)

end BankQuery.Sql
