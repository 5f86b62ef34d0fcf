import BankQuery.Text.CaseTables

/-!
# Letter case

`lowerChar` and `upperChar` map one character, `lower` and `upper` a text. A capital sigma at the
end of a word has a lower-case form of its own, which `lower` knows and `lowerChar` does not.
-/

namespace BankQuery.Text

def isUpper (c : Char) : Bool := upperRanges.has c.val.toNat

def isCased (c : Char) : Bool := casedRanges.has c.val.toNat

def isCaseless (c : Char) : Bool := caselessRanges.has c.val.toNat

def lowerChar (c : Char) : List Char :=
  if c.val.toNat < 0x80 then [c.toLower]
  else if c.val.toNat = 0x130 then ['i', Char.ofNat 0x307]
  else match caseImage lowerRuns c.val.toNat with
    | some n => [Char.ofNat n]
    | none => [c]

def upperChar (c : Char) : List Char :=
  if c.val.toNat < 0x80 then [c.toUpper]
  else match upperExpansions.lookup c.val.toNat with
  | some ns => ns.map Char.ofNat
  | none => match caseImage upperRuns c.val.toNat with
    | some n => [Char.ofNat n]
    | none => [c]

/-- Whether the first character that is not skipped has a case. -/
def meetsCased (cs : List Char) : Bool := (cs.dropWhile isCaseless).head?.any isCased

/-- Lower-case form of `cs` after the characters `before`, nearest first. -/
def lowerAfter (before : List Char) : List Char → List Char
  | [] => []
  | c :: rest =>
    (if c = 'Σ' then [if meetsCased before && !meetsCased rest then 'ς' else 'σ'] else lowerChar c)
      ++ lowerAfter (c :: before) rest

def lower (s : String) : String := String.ofList (lowerAfter [] s.toList)

def upper (s : String) : String := String.ofList (s.toList.flatMap upperChar)

/-- ASCII letters to lower case, all else unchanged. -/
def asciiLower (s : String) : String := String.ofList (s.toList.map Char.toLower)

def sameAscii (a b : String) : Bool := asciiLower a == asciiLower b

theorem sameAscii_refl (a : String) : sameAscii a a = true := by simp [sameAscii]

theorem sameAscii_iff {a b : String} : sameAscii a b = true ↔ asciiLower a = asciiLower b := by
  simp [sameAscii]

theorem toUpper_toLower : ∀ n < 0x80, (Char.ofNat n).toLower.val.toNat < 0x80 ∧
    (Char.ofNat n).toLower.toUpper = (Char.ofNat n).toUpper := by
  decide

/-- The upper-case form of a letter does not depend on its case. -/
theorem upperChar_toLower (c : Char) : upperChar c.toLower = upperChar c := by
  by_cases hc : c.val.toNat < 0x80
  · obtain ⟨hlower, hupper⟩ := toUpper_toLower c.val.toNat hc
    rw [show Char.ofNat c.val.toNat = c from Char.ofNat_toNat c] at hlower hupper
    rw [upperChar, upperChar, if_pos hlower, if_pos hc, hupper]
  · have hsame : c.toLower = c := dif_neg (by
      rintro ⟨-, hz⟩
      have hz : c.val.toNat ≤ 90 := hz
      omega)
    rw [hsame]

theorem upper_asciiLower (s : String) : upper (asciiLower s) = upper s := by
  rw [upper, upper, asciiLower, String.toList_ofList, List.flatMap_map]
  simp only [upperChar_toLower]

/-- Names that are the same up to ASCII letters have one upper-case form. -/
theorem upper_eq_of_sameAscii {a b : String} (h : sameAscii a b = true) : upper a = upper b := by
  rw [← upper_asciiLower a, sameAscii_iff.mp h, upper_asciiLower]

end BankQuery.Text
