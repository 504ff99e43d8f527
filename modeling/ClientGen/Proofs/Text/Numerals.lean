import ClientGen.Text.Numeral
import Mathlib.Data.List.Basic

namespace ClientGen.Text

variable {text digits : List Char} {n : Nat} {negative : Bool} {year : Int32}

def greatest (negative : Bool) : Nat :=
  if negative then 2147483648 else 2147483647

def signed (negative : Bool) (n : Nat) : Int :=
  if negative then -n else n

theorem le_ofDigitChars (digits : List Char) (n : Nat) : n ≤ Nat.ofDigitChars 10 digits n := by
  induction digits generalizing n with
  | nil => exact Nat.le_refl n
  | cons c digits ih =>
    rw [Nat.ofDigitChars_cons]
    have hrest := ih (10 * n + (c.toNat - '0'.toNat))
    omega

theorem readDigits_cons {c : Char} (hc : c.isDigit = true) :
    readDigits negative n (c :: digits) =
      if 10 * n + (c.toNat - '0'.toNat) ≤ greatest negative then
        readDigits negative (10 * n + (c.toNat - '0'.toNat)) digits
      else .error (if negative then .tooSmall else .tooLarge) := by
  rw [readDigits, if_pos hc]
  generalize 10 * n + (c.toNat - '0'.toNat) = m
  cases negative with
  | true =>
    by_cases hm : m ≤ 2147483648
    · have hsmall : ¬2147483648 < m := by omega
      simp only [greatest, hm, hsmall, Bool.true_and, decide_false, if_true, Bool.not_true,
        Bool.false_and, if_false, Bool.false_eq_true]
    · have hlarge : 2147483648 < m := by omega
      simp only [greatest, hm, hlarge, Bool.true_and, decide_true, if_true, if_false]
  | false =>
    by_cases hm : m ≤ 2147483647
    · have hsmall : ¬2147483648 ≤ m := by omega
      simp only [greatest, hm, hsmall, Bool.false_and, Bool.not_false, Bool.true_and, decide_false,
        if_true, if_false, Bool.false_eq_true]
    · have hlarge : 2147483648 ≤ m := by omega
      simp only [greatest, hm, hlarge, Bool.false_and, Bool.not_false, Bool.true_and, decide_true,
        if_true, if_false, Bool.false_eq_true]

/-- Digits are read to their end just if the whole number fits, since it grows with each digit. -/
theorem readDigits_eq_ok_iff (hn : n ≤ greatest negative) :
    readDigits negative n digits = .ok year ↔
      (∀ c ∈ digits, c.isDigit) ∧ Nat.ofDigitChars 10 digits n ≤ greatest negative ∧
        year = .ofInt (signed negative (Nat.ofDigitChars 10 digits n)) := by
  induction digits generalizing n with
  | nil =>
    have hread : readDigits negative n [] = .ok (.ofInt (signed negative n)) := rfl
    rw [hread, Nat.ofDigitChars_nil, Except.ok.injEq, eq_comm]
    exact ⟨fun h => ⟨by simp, hn, h⟩, fun h => h.2.2⟩
  | cons c digits ih =>
    rw [Nat.ofDigitChars_cons, List.forall_mem_cons, and_assoc]
    by_cases hc : c.isDigit = true
    · rw [readDigits_cons hc, eq_true hc, true_and]
      split
      · rename_i hfits
        exact ih hfits
      · rename_i hlarge
        have hgrow := le_ofDigitChars digits (10 * n + (c.toNat - '0'.toNat))
        exact ⟨nofun, fun ⟨_, hfits, _⟩ => absurd (Nat.le_trans hgrow hfits) hlarge⟩
    · rw [readDigits, if_neg hc]
      exact ⟨nofun, fun h => absurd h.1 hc⟩

theorem toInt_eq_signed_iff (h : n ≤ greatest negative) :
    year = .ofInt (signed negative n) ↔ year.toInt = signed negative n := by
  have hrange : (Int32.ofInt (signed negative n)).toInt = signed negative n := by
    cases negative with
    | true =>
      rw [greatest, if_pos rfl] at h
      exact Int32.toInt_ofInt_of_le (by simp only [signed, if_true]; omega)
        (by simp only [signed, if_true]; omega)
    | false =>
      rw [greatest, if_neg (by decide)] at h
      exact Int32.toInt_ofInt_of_le (by simp only [signed, Bool.false_eq_true, if_false]; omega)
        (by simp only [signed, Bool.false_eq_true, if_false]; omega)
  rw [← Int32.toInt_inj, hrange]

/-- An integer that a 32-bit integer equals is in its range. -/
theorem le_greatest_of_toInt_eq (h : year.toInt = signed negative n) : n ≤ greatest negative := by
  have hlow := year.le_toInt
  have hhigh := year.toInt_lt
  rw [h] at hlow hhigh
  cases negative with
  | true =>
    simp only [signed, greatest, if_true] at *
    omega
  | false =>
    simp only [signed, greatest, Bool.false_eq_true, if_false] at *
    omega

theorem isDigits_iff : isDigits digits = true ↔ digits ≠ [] ∧ ∀ c ∈ digits, c.isDigit := by
  rw [isDigits, Bool.and_eq_true, List.all_eq_true]
  simp

theorem readDigits_zero_eq_ok_iff (hne : digits ≠ []) : readDigits negative 0 digits = .ok year ↔
    (if isDigits digits then some (signed negative (digitsValue digits)) else none) =
      some year.toInt := by
  have hvalue : Nat.ofDigitChars 10 digits 0 = digitsValue digits := rfl
  rw [readDigits_eq_ok_iff (Nat.zero_le _), hvalue, Option.ite_none_right_eq_some, isDigits_iff,
    Option.some_inj, eq_comm (b := year.toInt), and_assoc, eq_true hne, true_and]
  refine and_congr_right fun _ => ⟨fun ⟨hfits, hyear⟩ => (toInt_eq_signed_iff hfits).mp hyear,
    fun hyear => ?_⟩
  have hfits := le_greatest_of_toInt_eq hyear
  exact ⟨hfits, (toInt_eq_signed_iff hfits).mpr hyear⟩

/-- A numeral is read as a 32-bit integer just if the integer that it writes is one. -/
theorem readInt32_eq_ok_iff : readInt32 text = .ok year ↔ integer? text = some year.toInt := by
  fun_cases readInt32 text with
  | case1 | case2 | case3 => exact ⟨nofun, nofun⟩
  | case4 digits hne =>
    have hinteger : integer? ('+' :: digits) =
        if isDigits digits then some (signed false (digitsValue digits)) else none := by
      rw [integer?, natural?]
      · split <;> rfl
      · nofun
    rw [hinteger]
    exact readDigits_zero_eq_ok_iff hne
  | case5 digits hne => exact readDigits_zero_eq_ok_iff hne
  | case6 _ hempty _ _ hplus hminus =>
    have hinteger : integer? text =
        if isDigits text then some (signed false (digitsValue text)) else none := by
      rw [integer?, natural?]
      · split <;> rfl
      · exact hplus
      · exact hminus
    rw [hinteger]
    exact readDigits_zero_eq_ok_iff hempty

theorem integer?_of_isDigits (h : isDigits digits = true) :
    integer? digits = some (digitsValue digits) := by
  have hsign {c : Char} (hc : c.isDigit = false) (rest : List Char) : digits ≠ c :: rest := by
    rintro rfl
    have hdigit := (isDigits_iff.mp h).2 c List.mem_cons_self
    rw [hc] at hdigit
    cases hdigit
  rw [integer?, natural?, if_pos h]
  · rfl
  · exact hsign (by decide)
  · exact hsign (by decide)

theorem isDigits_toDigits (n : Nat) : isDigits (Nat.toDigits 10 n) = true :=
  isDigits_iff.mpr ⟨Nat.toDigits_ne_nil,
    fun _ hc => Nat.isDigit_of_mem_toDigits (by decide) (by decide) hc⟩

theorem toList_repr_negSucc (n : Nat) :
    (Int.negSucc n).repr.toList = '-' :: Nat.toDigits 10 (n + 1) := by
  change ("-" ++ (n + 1).repr).toList = _
  rw [String.toList_append, Nat.toList_repr]
  rfl

/-- An integer is read from its usual numeral. -/
theorem integer?_repr (n : Int) : integer? n.repr.toList = some n := by
  have hvalue (m : Nat) : digitsValue (Nat.toDigits 10 m) = m :=
    Nat.ofDigitChars_toDigits (by decide) (by decide)
  cases n with
  | ofNat m =>
    change integer? (Nat.repr m).toList = _
    rw [Nat.toList_repr, integer?_of_isDigits (isDigits_toDigits m), hvalue]
    rfl
  | negSucc m =>
    rw [toList_repr_negSucc, integer?, if_pos (isDigits_toDigits (m + 1)), hvalue]
    rfl

theorem eq_or_isDigit_of_mem_repr {n : Int} {c : Char} (h : c ∈ n.repr.toList) :
    c = '-' ∨ c.isDigit = true := by
  cases n with
  | ofNat m =>
    change c ∈ (Nat.repr m).toList at h
    rw [Nat.toList_repr] at h
    exact .inr ((isDigits_iff.mp (isDigits_toDigits m)).2 c h)
  | negSucc m =>
    rw [toList_repr_negSucc] at h
    exact (List.mem_cons.mp h).imp_right ((isDigits_iff.mp (isDigits_toDigits (m + 1))).2 c)

end ClientGen.Text
