import BankQuery.Calendar.Date
import Mathlib.Algebra.Group.Nat.Defs

/-!
# Dates as texts

A date is written so that it is read back, in every year of the calendar: `Date.read?_text`.
-/

namespace BankQuery.Date

theorem digitsToNat_eq (cs : List Char) : digitsToNat cs = Nat.ofDigitChars 10 cs 0 := by
  unfold digitsToNat Nat.ofDigitChars
  simp only [Nat.mul_comm]

theorem toNat_of_isDigit {c : Char} (h : c.isDigit = true) : 48 ≤ c.toNat ∧ c.toNat ≤ 57 := by
  rw [Char.isDigit, Bool.and_eq_true, decide_eq_true_eq, decide_eq_true_eq] at h
  exact ⟨UInt32.le_iff_toNat_le.mp h.1, UInt32.le_iff_toNat_le.mp h.2⟩

/-- What is true of the ten digits is true of a digit. -/
theorem of_isDigit {p : Char → Prop} (hall : ∀ n < 58, 48 ≤ n → p (Char.ofNat n)) {c : Char}
    (h : c.isDigit = true) : p c := by
  obtain ⟨hlow, hhigh⟩ := toNat_of_isDigit h
  exact Char.ofNat_toNat c ▸ hall c.toNat (Nat.lt_succ_of_le hhigh) hlow

theorem digitsFrom_lt {cs : List Char} (h : cs.all Char.isDigit = true) (n : Nat) :
    cs.foldl (fun n c => n * 10 + (c.toNat - '0'.toNat)) n < (n + 1) * 10 ^ cs.length := by
  induction cs generalizing n with
  | nil => simp
  | cons c cs ih =>
    rw [List.all_cons, Bool.and_eq_true] at h
    have hc : c.toNat - '0'.toNat ≤ 9 := by
      have h9 : c.toNat ≤ 57 := (toNat_of_isDigit h.1).2
      have h0 : '0'.toNat = 48 := rfl
      omega
    calc (c :: cs).foldl (fun n c => n * 10 + (c.toNat - '0'.toNat)) n
        < (n * 10 + (c.toNat - '0'.toNat) + 1) * 10 ^ cs.length := ih h.2 _
      _ ≤ ((n + 1) * 10) * 10 ^ cs.length := Nat.mul_le_mul_right _ (by omega)
      _ = (n + 1) * 10 ^ (c :: cs).length := by rw [List.length_cons, Nat.pow_succ']; ac_rfl

theorem digitsToNat_lt {cs : List Char} (h : cs.all Char.isDigit = true) :
    digitsToNat cs < 10 ^ cs.length := by
  simpa only [Nat.zero_add, Nat.one_mul, digitsToNat] using digitsFrom_lt h 0

theorem not_isBlank_of_isDigit {c : Char} (h : c.isDigit = true) : Text.isBlank c = false :=
  of_isDigit (p := fun c => Text.isBlank c = false) (by decide) h

section Pad

variable (width n : Nat)

theorem toList_pad : (pad width n).toList =
    List.replicate (width - (Nat.toDigits 10 n).length) '0' ++ Nat.toDigits 10 n := by
  rw [pad, String.toList_append, String.toList_ofList, Nat.toList_repr, ← String.length_toList,
    Nat.toList_repr]

theorem isDigit_of_mem_pad {c : Char} (hc : c ∈ (pad width n).toList) : c.isDigit = true := by
  rw [toList_pad] at hc
  rcases List.mem_append.mp hc with hc | hc
  · rw [List.eq_of_mem_replicate hc]
    rfl
  · exact Nat.isDigit_of_mem_toDigits (by decide) (by decide) hc

theorem pad_ne_nil : (pad width n).toList ≠ [] := by
  rw [toList_pad]
  exact List.append_ne_nil_of_right_ne_nil _ Nat.toDigits_ne_nil

theorem digitsToNat_pad : digitsToNat (pad width n).toList = n := by
  have hzeros (k : Nat) : Nat.ofDigitChars 10 (List.replicate k '0') 0 = 0 := by
    induction k with
    | zero => rfl
    | succ k ih => exact ih
  rw [digitsToNat_eq, toList_pad, Nat.ofDigitChars, List.foldl_append, ← Nat.ofDigitChars,
    ← Nat.ofDigitChars, hzeros]
  exact Nat.ofDigitChars_ten_toDigits

theorem length_pad {width n : Nat} (hw : 0 < width) (hn : n < 10 ^ width) :
    (pad width n).toList.length = width := by
  have hl := (Nat.length_toDigits_le_iff (by decide : 1 < 10) hw).mpr hn
  rw [toList_pad, List.length_append, List.length_replicate]
  omega

end Pad

section Read

variable {ds rest : List Char}

theorem dropWhile_isBlank (hd : ∀ c ∈ ds, c.isDigit = true) (hne : ds ≠ []) :
    (ds ++ rest).dropWhile Text.isBlank = ds ++ rest := by
  obtain ⟨c, ds, rfl⟩ := List.exists_cons_of_ne_nil hne
  exact List.dropWhile_cons_of_neg
    (by rw [not_isBlank_of_isDigit (hd c List.mem_cons_self)]; exact Bool.false_ne_true)

/-- Digits are read as a number if there are as many as there may be, or no more follow. -/
theorem readNumber_append {width : Nat} (hd : ∀ c ∈ ds, c.isDigit = true) (hne : ds ≠ [])
    (hr : ds.length = width ∨ ds.length ≤ width ∧ ∀ c ∈ rest.head?, c.isDigit = false) :
    readNumber width (ds ++ rest) = some (digitsToNat ds, rest) := by
  have htake : ((ds ++ rest).takeWhile Char.isDigit).take width = ds := by
    rw [List.takeWhile_append_of_pos hd]
    rcases hr with rfl | ⟨hl, hrest⟩
    · exact List.take_left
    · have hnone : rest.takeWhile Char.isDigit = [] := by
        cases rest with
        | nil => rfl
        | cons c rest =>
          exact List.takeWhile_cons_of_neg (by rw [hrest c rfl]; exact Bool.false_ne_true)
      rw [hnone, List.append_nil, List.take_of_length_le hl]
  rw [readNumber, dropWhile_isBlank hd hne, htake]
  simp only [List.isEmpty_eq_false_iff.mpr hne, Bool.false_eq_true, if_false, List.drop_left]

theorem readNumber_pad {width n : Nat} (hw : 0 < width) (hn : n < 10 ^ width) (rest : List Char) :
    readNumber width ((pad width n).toList ++ rest) = some (n, rest) := by
  rw [readNumber_append (fun _ => isDigit_of_mem_pad width n) (pad_ne_nil width n)
    (.inl (length_pad hw hn)), digitsToNat_pad]

theorem readDash_cons (rest : List Char) : readDash ('-' :: rest) = some rest := rfl

/-- The digits of a year behind its sign, up to the dash. -/
theorem readNumber_year (n : Nat) (rest : List Char) :
    readNumber ((pad 4 n).toList ++ '-' :: rest).length ((pad 4 n).toList ++ '-' :: rest) =
      some (n, '-' :: rest) := by
  rw [readNumber_append (fun _ => isDigit_of_mem_pad 4 n) (pad_ne_nil 4 n), digitsToNat_pad]
  refine .inr ⟨by rw [List.length_append]; omega, fun c hc => ?_⟩
  cases hc
  rfl

theorem toList_dash : "-".toList = ['-'] := rfl

theorem toList_plus : "+".toList = ['+'] := rfl

theorem readYear_minus {c : Char} (hc : c.isDigit = true) (cs : List Char) :
    readYear ('-' :: c :: cs) =
      (readNumber (c :: cs).length (c :: cs)).map fun (n, r) => (-(n : Int), r) := by
  rw [readYear, List.dropWhile_cons_of_neg (by decide)]
  exact if_pos hc

theorem readYear_plus {c : Char} (hc : c.isDigit = true) (cs : List Char) :
    readYear ('+' :: c :: cs) =
      (readNumber (c :: cs).length (c :: cs)).map fun (n, r) => ((n : Int), r) := by
  rw [readYear, List.dropWhile_cons_of_neg (by decide)]
  exact if_pos hc

theorem readYear_digit {c : Char} (hc : c.isDigit = true) (cs : List Char) :
    readYear (c :: cs) = (readNumber 4 (c :: cs)).map fun (n, r) => ((n : Int), r) := by
  have hblank : ¬ Text.isBlank c = true := by
    rw [not_isBlank_of_isDigit hc]
    exact Bool.false_ne_true
  rw [readYear, List.dropWhile_cons_of_neg hblank]
  split
  · rename_i he
    cases he
    cases hc
  · rename_i he
    cases he
    cases hc
  · rfl

theorem readYear_yearText (y : Int) (rest : List Char) :
    readYear ((yearText y).toList ++ '-' :: rest) = some (y, '-' :: rest) := by
  obtain ⟨c, ds, hpad⟩ := List.exists_cons_of_ne_nil (pad_ne_nil 4 y.natAbs)
  have hc : c.isDigit = true := isDigit_of_mem_pad 4 y.natAbs (hpad ▸ List.mem_cons_self)
  have hlong := readNumber_year y.natAbs rest
  unfold yearText
  split
  · rename_i hy
    have hshort := readNumber_pad (by decide : 0 < 4) (by omega : y.natAbs < 10 ^ 4) ('-' :: rest)
    rw [hpad, List.cons_append] at hshort
    rw [show y.toNat = y.natAbs by omega, hpad, List.cons_append, readYear_digit hc, hshort,
      Option.map_some]
    exact congrArg (fun n => some (n, '-' :: rest)) (Int.natAbs_of_nonneg hy.1)
  · rw [hpad, List.cons_append] at hlong
    rw [String.toList_append, hpad]
    split
    · rw [toList_dash, List.cons_append, List.nil_append, List.cons_append, List.cons_append,
        readYear_minus hc, hlong, Option.map_some]
      exact congrArg (fun n => some (n, '-' :: rest)) (by omega)
    · rw [toList_plus, List.cons_append, List.nil_append, List.cons_append, List.cons_append,
        readYear_plus hc, hlong, Option.map_some]
      exact congrArg (fun n => some (n, '-' :: rest)) (by omega)

end Read

theorem ofParts?_eq (d : Date) : ofParts? d.year d.month d.day = some d :=
  dif_pos ⟨d.year_mem, d.month_mem, d.day_mem⟩

theorem day_lt (d : Date) : d.day < 10 ^ 2 := by
  have hday := d.day_mem.2
  unfold daysInMonth at hday
  split at hday
  · split at hday <;> omega
  · split at hday <;> omega

theorem read?_text (d : Date) : read? d.text = some d := by
  have hmonth : d.month < 10 ^ 2 := by
    have := d.month_mem.2
    omega
  have htext : d.text.toList = (yearText d.year).toList ++ '-' :: ((pad 2 d.month).toList ++
      '-' :: ((pad 2 d.day).toList ++ [])) := by
    simp only [text, String.toList_append, toList_dash, List.append_nil, List.append_assoc,
      List.cons_append, List.nil_append]
  simp only [read?, htext, readYear_yearText, readDash_cons, readNumber_pad (by decide) hmonth,
    readNumber_pad (by decide) d.day_lt, Option.bind_eq_bind, Option.bind_some, List.all_nil,
    if_true, ofParts?_eq]

end BankQuery.Date
