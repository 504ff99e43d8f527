import ClientGen.Naming
import ClientGen.Proofs.Text.Split

namespace ClientGen.Text

theorem inRanges_eq_false {as bs : List (Nat × Nat)} {n : Nat}
    (hapart : ∀ a ∈ as, ∀ b ∈ bs, a.2 < b.1 ∨ b.2 < a.1) (h : inRanges as n = true) :
    inRanges bs n = false := by
  obtain ⟨a, ha, hn⟩ := List.any_eq_true.mp h
  rw [inRanges, List.any_eq_false]
  intro b hb
  have hab := hapart a ha b hb
  simp only [Bool.and_eq_true, decide_eq_true_eq] at hn ⊢
  omega

def spacingRanges : List (Nat × Nat) := (0x2F, 0x2F) :: blankRanges

/-- Whether a character may begin a line of code: it is neither white space nor a slash. -/
def isSolid (c : Char) : Bool :=
  !inRanges spacingRanges c.toNat

theorem isBlank_of_isSolid {c : Char} (h : isSolid c) : isBlank c = false := by
  simp only [isSolid, spacingRanges, inRanges, List.any_cons, Bool.not_eq_true',
    Bool.or_eq_false_iff] at h
  exact h.2

theorem ne_slash_of_isSolid {c : Char} (h : isSolid c) : c ≠ '/' := by
  rintro rfl
  revert h
  decide

def markRanges : List (Nat × Nat) :=
  [(0x21, 0x2F), (0x3A, 0x40), (0x5B, 0x5E), (0x60, 0x60), (0x7B, 0x7E)] ++ spacingRanges

def isOrdinary (c : Char) : Bool :=
  !inRanges markRanges c.toNat

theorem isSolid_of_isOrdinary {c : Char} (h : isOrdinary c) : isSolid c := by
  simp only [isOrdinary, markRanges, inRanges, List.any_append, Bool.not_eq_true',
    Bool.or_eq_false_iff] at h
  rw [isSolid, inRanges, h.2]
  rfl

theorem ne_of_isOrdinary {c : Char} (h : isOrdinary c) : c ≠ '\x7b' ∧ c ≠ '\x7d' := by
  constructor
  all_goals
    rintro rfl
    revert h
    decide

theorem isOrdinary_ofNat {n : Nat} (h : inRanges markRanges n = false) :
    isOrdinary (Char.ofNat n) := by
  by_cases hn : n.isValidChar
  · have hchar : Char.ofNat n = Char.ofNatAux n hn := dif_pos hn
    rw [hchar]
    change (!inRanges markRanges n) = true
    rw [h]
    rfl
  · have hchar : Char.ofNat n = '\x00' := dif_neg hn
    rw [hchar]
    rfl

theorem isOrdinary_ascii : ∀ n < 0x80, isOrdinary (Char.ofNat n) →
    isOrdinary (Char.ofNat n).toLower ∧ isOrdinary (Char.ofNat n).toUpper := by
  decide +kernel

theorem isOrdinary_of_isAlphanumeric {c : Char} (h : isAlphanumeric c) : isOrdinary c := by
  have hrange :
      inRanges ([(0x30, 0x39), (0x41, 0x5A), (0x61, 0x7A)] ++ alphanumericRanges) c.toNat := by
    rw [inRanges, List.any_append, Bool.or_eq_true]
    rcases Bool.or_eq_true_iff.mp h with h | h
    · have hclass : c.isAlphanum =
          (decide (c.val ≥ 65 ∧ c.val ≤ 90) || (decide (c.val ≥ 97) && decide (c.val ≤ 122)) ||
            (decide (c.val ≥ 48) && decide (c.val ≤ 57))) := rfl
      have hcode : c.val.toNat = c.toNat := rfl
      simp only [hclass, Bool.or_eq_true, Bool.and_eq_true, decide_eq_true_eq,
        UInt32.le_iff_toNat_le, ge_iff_le, hcode] at h
      refine .inl ?_
      simp at h ⊢
      omega
    · exact .inr h
  rw [isOrdinary, inRanges_eq_false (by decide +kernel) hrange]
  rfl

theorem isOrdinary_of_mem_caseMapped {sequences : List (Nat × List Nat)}
    {shifts : List Shift} {c d : Char}
    (hsequences : ∀ entry ∈ sequences, ∀ n ∈ entry.2, inRanges markRanges n = false)
    (hshifts : ∀ s ∈ shifts, ∀ r ∈ markRanges,
      (s.run.last + s.offset).toNat < r.1 ∨ r.2 < (s.run.first + s.offset).toNat)
    (hc : isOrdinary c) (hd : d ∈ caseMapped sequences shifts c.toNat) : isOrdinary d := by
  unfold caseMapped at hd
  split at hd
  · rename_i ns hl
    obtain ⟨n, hn, rfl⟩ := List.mem_map.mp hd
    obtain ⟨before, after, rfl, _⟩ := List.lookup_eq_some_iff.mp hl
    exact isOrdinary_ofNat (hsequences (c.toNat, ns) (by simp) n hn)
  · rw [List.mem_singleton] at hd
    rw [hd]
    unfold shifted
    cases hs : shifts.find? (·.run.contains c.toNat) with
    | none => simpa using hc
    | some s =>
      have hrun := List.find?_some (p := fun s : Shift => s.run.contains c.toNat) hs
      simp only [Run.contains, Bool.and_eq_true, decide_eq_true_eq] at hrun
      refine isOrdinary_ofNat (List.any_eq_false.mpr fun r hr => ?_)
      have hapart := hshifts s (List.mem_of_find?_eq_some hs) r hr
      simp only [Bool.and_eq_true, decide_eq_true_eq]
      omega

theorem isOrdinary_of_mem_toLower {c d : Char} (hc : isAlphanumeric c) (hd : d ∈ toLower c) :
    isOrdinary d := by
  unfold toLower at hd
  split at hd
  · rename_i hn
    have hascii := isOrdinary_ascii c.toNat hn
    rw [Char.ofNat_toNat] at hascii
    rw [List.mem_singleton.mp hd]
    exact (hascii (isOrdinary_of_isAlphanumeric hc)).1
  · exact isOrdinary_of_mem_caseMapped (by decide) (by decide +kernel)
      (isOrdinary_of_isAlphanumeric hc) hd

theorem isOrdinary_of_mem_toUpper {c d : Char} (hc : isAlphanumeric c) (hd : d ∈ toUpper c) :
    isOrdinary d := by
  unfold toUpper at hd
  split at hd
  · rename_i hn
    have hascii := isOrdinary_ascii c.toNat hn
    rw [Char.ofNat_toNat] at hascii
    rw [List.mem_singleton.mp hd]
    exact (hascii (isOrdinary_of_isAlphanumeric hc)).2
  · exact isOrdinary_of_mem_caseMapped (by decide +kernel) (by decide +kernel)
      (isOrdinary_of_isAlphanumeric hc) hd

theorem mem_of_mem_wordsFrom {word : List Char} {mode : Mode} {text piece : List Char} {c : Char}
    (hp : piece ∈ wordsFrom word mode text) (hc : c ∈ piece) : c ∈ word ∨ c ∈ text := by
  fun_induction wordsFrom word mode text with
  | case1 => cases hp
  | case2 word mode d =>
    rw [List.mem_singleton.mp hp, List.mem_reverse, List.mem_cons] at hc
    grind
  | case3 | case4 | case5 => grind

theorem isAlphanumeric_of_mem_words {text word : List Char} {c : Char} (hw : word ∈ words text)
    (hc : c ∈ word) : isAlphanumeric c := by
  obtain ⟨piece, hp, hw⟩ := List.mem_flatMap.mp hw
  obtain h | h := mem_of_mem_wordsFrom hw hc
  · cases h
  · simpa using eq_false_of_mem_splitOnP hp h

theorem isOrdinary_of_mem_lowercase {word : List Char} {d : Char} (h : ∀ c ∈ word, isAlphanumeric c)
    (hd : d ∈ lowercase word) : isOrdinary d := by
  fun_induction lowercase word with
  | case1 => cases hd
  | case2 =>
    rw [List.mem_singleton.mp hd]
    decide
  | case3 c _ => exact isOrdinary_of_mem_toLower (h _ List.mem_cons_self) hd
  | case4 c rest _ ih =>
    rcases List.mem_append.mp hd with hd | hd
    · exact isOrdinary_of_mem_toLower (h c List.mem_cons_self) hd
    · exact ih (fun c hc => h c (List.mem_cons_of_mem _ hc)) hd

theorem isOrdinary_of_mem_capitalize {word : List Char} {d : Char} (h : ∀ c ∈ word, isAlphanumeric c)
    (hd : d ∈ capitalize word) : isOrdinary d := by
  cases word with
  | nil => cases hd
  | cons c rest =>
    rcases List.mem_append.mp hd with hd | hd
    · exact isOrdinary_of_mem_toUpper (h c List.mem_cons_self) hd
    · exact isOrdinary_of_mem_lowercase (fun c hc => h c (List.mem_cons_of_mem _ hc)) hd

theorem isOrdinary_of_mem_lowerCamelCase {text : String} {d : Char}
    (hd : d ∈ (lowerCamelCase text).toList) : isOrdinary d := by
  unfold lowerCamelCase at hd
  have hwords {word : List Char} (hw : word ∈ words text.toList) : ∀ c ∈ word, isAlphanumeric c :=
    fun c hc => isAlphanumeric_of_mem_words hw hc
  cases hw : words text.toList with
  | nil =>
    rw [hw] at hd
    cases hd
  | cons first rest =>
    rw [hw] at hd hwords
    rw [String.toList_ofList, List.mem_append, List.mem_flatMap] at hd
    obtain hd | ⟨word, hr, hd⟩ := hd
    · exact isOrdinary_of_mem_lowercase (hwords List.mem_cons_self) hd
    · exact isOrdinary_of_mem_capitalize (hwords (List.mem_cons_of_mem _ hr)) hd

theorem isOrdinary_of_mem_upperCamelCase {text : String} {d : Char}
    (hd : d ∈ (upperCamelCase text).toList) : isOrdinary d := by
  rw [upperCamelCase, String.toList_ofList, List.mem_flatMap] at hd
  obtain ⟨word, hw, hd⟩ := hd
  exact isOrdinary_of_mem_capitalize (fun _ hc => isAlphanumeric_of_mem_words hw hc) hd

theorem eq_or_exists_of_mem_intercalate {sep c : Char} {parts : List (List Char)}
    (h : c ∈ [sep].intercalate parts) : c = sep ∨ ∃ part ∈ parts, c ∈ part := by
  induction parts with
  | nil => cases h
  | cons part parts ih =>
    cases parts with
    | nil =>
      rw [List.intercalate_singleton] at h
      exact .inr ⟨part, List.mem_cons_self, h⟩
    | cons next parts =>
      rw [List.intercalate_cons_cons, List.mem_append, List.mem_append, List.mem_singleton] at h
      obtain (h | h) | h := h
      · exact .inr ⟨part, List.mem_cons_self, h⟩
      · exact .inl h
      · exact (ih h).imp_right fun ⟨other, ho, hc⟩ => ⟨other, List.mem_cons_of_mem _ ho, hc⟩

theorem isOrdinary_of_mem_snakeCase {text : String} {c : Char} (h : c ∈ (snakeCase text).toList) :
    isOrdinary c := by
  rw [snakeCase, String.toList_ofList] at h
  obtain rfl | ⟨part, hp, hc⟩ := eq_or_exists_of_mem_intercalate h
  · decide
  · obtain ⟨word, hw, rfl⟩ := List.mem_map.mp hp
    exact isOrdinary_of_mem_lowercase (fun _ hc => isAlphanumeric_of_mem_words hw hc) hc

end ClientGen.Text
