import ClientGen.Proofs.Text.Split
import Mathlib.Data.List.Basic
import Mathlib.Data.List.TakeWhile

namespace ClientGen.Text

variable {sep : Char} {text a b : List Char}

def IsBlankText (text : List Char) : Prop := ∀ c ∈ text, isBlank c

instance (text : List Char) : Decidable (IsBlankText text) :=
  decidable_of_iff (text.all isBlank) List.all_eq_true

theorem isBlankText_replicate {c : Char} (h : isBlank c) (n : Nat) :
    IsBlankText (List.replicate n c) := by
  intro d hd
  rw [List.eq_of_mem_replicate hd]
  exact h

theorem trimStart_append_of_blank (h : IsBlankText a) : trimStart (a ++ text) = trimStart text :=
  List.dropWhile_append_of_pos h

theorem trimEnd_append_of_blank (h : IsBlankText b) : trimEnd (text ++ b) = trimEnd text := by
  have hreverse : ∀ c ∈ b.reverse, isBlank c := fun c hc => h c (List.mem_reverse.mp hc)
  rw [trimEnd, List.reverse_append, List.dropWhile_append_of_pos hreverse]
  rfl

theorem trim_append_of_blank_left (h : IsBlankText a) : trim (a ++ text) = trim text := by
  rw [trim, trimStart_append_of_blank h]
  rfl

theorem trimStart_eq_nil_iff : trimStart text = [] ↔ IsBlankText text := by
  rw [trimStart, List.dropWhile_eq_nil_iff]
  rfl

theorem trimEnd_eq_nil_iff : trimEnd text = [] ↔ IsBlankText text := by
  rw [trimEnd, List.reverse_eq_nil_iff, List.dropWhile_eq_nil_iff]
  simp only [List.mem_reverse, IsBlankText]

theorem trim_append_of_blank_right (h : IsBlankText b) : trim (text ++ b) = trim text := by
  rw [trim, trim, trimStart, List.dropWhile_append]
  split
  · rename_i hempty
    have hb : b.dropWhile isBlank = [] := trimStart_eq_nil_iff.mpr h
    rw [hb, ← List.isEmpty_iff.mp hempty]
    rfl
  · exact trimEnd_append_of_blank h

theorem exists_trimStart (text : List Char) :
    ∃ before, IsBlankText before ∧ text = before ++ trimStart text :=
  ⟨text.takeWhile isBlank, fun _ hc => List.mem_takeWhile_imp hc,
    List.takeWhile_append_dropWhile.symm⟩

theorem exists_trimEnd (text : List Char) :
    ∃ after, IsBlankText after ∧ text = trimEnd text ++ after := by
  obtain ⟨before, hblank, hbefore⟩ := exists_trimStart text.reverse
  refine ⟨before.reverse, fun c hc => hblank c (List.mem_reverse.mp hc), ?_⟩
  have hreverse := congrArg List.reverse hbefore
  rwa [List.reverse_reverse, List.reverse_append] at hreverse

theorem trim_trimStart (text : List Char) : trim (trimStart text) = trim text := by
  obtain ⟨before, hblank, hbefore⟩ := exists_trimStart text
  have htrim : trim (before ++ trimStart text) = trim (trimStart text) :=
    trim_append_of_blank_left hblank
  rw [← htrim, ← hbefore]

theorem trim_trimEnd (text : List Char) : trim (trimEnd text) = trim text := by
  obtain ⟨after, hblank, hafter⟩ := exists_trimEnd text
  have htrim : trim (trimEnd text ++ after) = trim (trimEnd text) :=
    trim_append_of_blank_right hblank
  rw [← htrim, ← hafter]

theorem not_isBlank_of_getLast? {c : Char} (h : (trimEnd text).getLast? = some c) :
    isBlank c = false := by
  have hnot := List.head?_dropWhile_not isBlank text.reverse
  rw [trimEnd, List.getLast?_reverse] at h
  rw [h] at hnot
  exact hnot

theorem not_isBlank_of_head?_trim {c : Char} (h : (trim text).head? = some c) :
    isBlank c = false := by
  obtain ⟨after, _, hafter⟩ := exists_trimEnd (trimStart text)
  obtain ⟨rest, hrest⟩ := List.head?_eq_some_iff.mp h
  have hnot := List.head?_dropWhile_not isBlank text
  rw [← trimStart, hafter, ← trim, hrest, List.cons_append, List.head?_cons] at hnot
  exact hnot

theorem trimStart_append_cons (h : isBlank sep = false) :
    trimStart (a ++ sep :: b) = trimStart a ++ sep :: b := by
  rw [trimStart, List.dropWhile_append]
  split
  · rename_i hempty
    rw [List.dropWhile_cons_of_neg (by simp [h]), trimStart, List.isEmpty_iff.mp hempty]
    rfl
  · rfl

theorem trimEnd_append_cons (h : isBlank sep = false) :
    trimEnd (a ++ sep :: b) = a ++ sep :: trimEnd b := by
  rw [trimEnd, List.reverse_append, List.reverse_cons, List.append_assoc, List.dropWhile_append]
  split
  · rename_i hempty
    rw [List.singleton_append, List.dropWhile_cons_of_neg (by simp [h]), trimEnd,
      List.isEmpty_iff.mp hempty]
    simp
  · simp [trimEnd]

/-- What is around a separator keeps the white space beside it. -/
theorem trim_append_cons (h : isBlank sep = false) :
    trim (a ++ sep :: b) = trimStart a ++ sep :: trimEnd b := by
  rw [trim, trimStart_append_cons h, trimEnd_append_cons h]

theorem mem_of_mem_trimStart {c : Char} (h : c ∈ trimStart text) : c ∈ text :=
  (List.dropWhile_suffix _).subset h

theorem mem_of_mem_trim {c : Char} (h : c ∈ trim text) : c ∈ text :=
  mem_of_mem_trimStart (mem_of_mem_trimEnd h)

theorem trim_eq_nil_iff : trim text = [] ↔ IsBlankText text := by
  constructor
  · intro h
    obtain ⟨before, hbefore, hstart⟩ := exists_trimStart text
    obtain ⟨after, hafter, hend⟩ := exists_trimEnd (trimStart text)
    rw [← trim, h, List.nil_append] at hend
    rw [hstart, hend]
    exact fun c hc => (List.mem_append.mp hc).elim (hbefore c) (hafter c)
  · intro h
    rw [trim, trimStart_eq_nil_iff.mpr h]
    rfl

theorem trim_eq_self (h : ∀ c ∈ text, isBlank c = false) : trim text = text := by
  have hnil {part : List Char} (hblank : IsBlankText part) (hpart : ∀ c ∈ part, c ∈ text) :
      part = [] := by
    refine List.eq_nil_iff_forall_not_mem.mpr fun c hc => ?_
    have hsolid := h c (hpart c hc)
    rw [hblank c hc] at hsolid
    cases hsolid
  obtain ⟨before, hbefore, hstart⟩ := exists_trimStart text
  obtain ⟨after, hafter, hend⟩ := exists_trimEnd (trimStart text)
  have hb : before = [] := hnil hbefore fun c hc => by
    rw [hstart]
    exact List.mem_append_left _ hc
  have ha : after = [] := hnil hafter fun c hc => mem_of_mem_trimStart <| by
    rw [hend]
    exact List.mem_append_right _ hc
  rw [ha, List.append_nil] at hend
  rw [hb, List.nil_append] at hstart
  rw [trim, ← hend, ← hstart]

theorem isBlank_of_isDigit {c : Char} (h : c.isDigit = true) : isBlank c = false := by
  have hcode : c.val.toNat = c.toNat := rfl
  simp only [Char.isDigit, Bool.and_eq_true, decide_eq_true_eq, ge_iff_le, UInt32.le_iff_toNat_le,
    hcode] at h
  rw [isBlank, inRanges, List.any_eq_false]
  simp only [blankRanges, List.forall_mem_cons, Bool.and_eq_true, decide_eq_true_eq]
  simp at h ⊢
  omega

theorem cutChars_append_cons (h : sep ∉ a) : cutChars sep (a ++ sep :: b) = some (a, b) := by
  induction a with
  | nil => exact if_pos rfl
  | cons c a ih =>
    obtain ⟨hc, ha⟩ := not_or.mp (List.mem_cons.not.mp h)
    rw [List.cons_append, cutChars, if_neg (Ne.symm hc), ih ha]
    rfl

/-- A text is cut at the first separator. -/
theorem cutChars_eq_some_iff : cutChars sep text = some (a, b) ↔ sep ∉ a ∧ text = a ++ sep :: b := by
  refine ⟨fun h => ?_, fun ⟨ha, htext⟩ => htext ▸ cutChars_append_cons ha⟩
  induction text generalizing a with
  | nil => cases h
  | cons c text ih =>
    rw [cutChars] at h
    split at h
    · rename_i hc
      cases h
      exact ⟨List.not_mem_nil, by rw [hc]; rfl⟩
    · rename_i hc
      obtain ⟨⟨before, after⟩, hcut, hpair⟩ := Option.map_eq_some_iff.mp h
      cases hpair
      obtain ⟨hbefore, rfl⟩ := ih hcut
      exact ⟨List.not_mem_cons_of_ne_of_not_mem (Ne.symm hc) hbefore, rfl⟩

theorem dropWhile_beq_eq_iff {c : Char} {text rest : List Char} : text.dropWhile (· == c) = rest ↔
    rest.head? ≠ some c ∧ ∃ n, text = List.replicate n c ++ rest := by
  constructor
  · rintro rfl
    refine ⟨?_, (text.takeWhile (· == c)).length, ?_⟩
    · have hnot := List.head?_dropWhile_not (· == c) text
      intro hhead
      rw [hhead] at hnot
      simp at hnot
    · have hall : ∀ d ∈ text.takeWhile (· == c), d = c := by
        intro d hd
        have hd := List.mem_takeWhile_imp (p := (· == c)) hd
        exact eq_of_beq hd
      rw [← List.eq_replicate_iff.mpr ⟨rfl, hall⟩, List.takeWhile_append_dropWhile]
  · rintro ⟨hhead, n, rfl⟩
    rw [List.dropWhile_append_of_pos (by simp)]
    cases rest with
    | nil => rfl
    | cons d rest => exact List.dropWhile_cons_of_neg (by simpa using hhead)

variable {whole front back : String}

theorem cut_eq_some_iff : cut sep whole = some (front, back) ↔
    sep ∉ front.toList ∧ whole = front ++ .singleton sep ++ back := by
  have hlist : whole = front ++ .singleton sep ++ back ↔
      whole.toList = front.toList ++ sep :: back.toList := by
    rw [← String.toList_inj]
    simp
  rw [cut, hlist, ← cutChars_eq_some_iff, Option.map_eq_some_iff]
  constructor
  · rintro ⟨⟨a, b⟩, hcut, hpair⟩
    cases hpair
    rw [String.toList_ofList, String.toList_ofList, hcut]
  · exact fun hcut => ⟨_, hcut, by simp⟩

theorem after?_eq_some_iff : after? front whole = some back ↔
    whole = front ++ back := by
  rw [after?, Option.map_eq_some_iff]
  simp only [List.isPrefixOf?_eq_some_iff_append_eq, ← String.toList_inj, String.toList_append]
  constructor
  · rintro ⟨chars, htext, hchars⟩
    rw [← htext, ← hchars, String.toList_ofList]
  · intro htext
    exact ⟨back.toList, htext.symm, String.toList_ofList⟩

theorem before?_eq_some_iff : before? back whole = some front ↔
    whole = front ++ back := by
  rw [before?, Option.map_eq_some_iff]
  simp only [List.isSuffixOf?_eq_some_iff_append_eq, ← String.toList_inj, String.toList_append]
  constructor
  · rintro ⟨chars, htext, hchars⟩
    rw [← htext, ← hchars, String.toList_ofList]
  · intro htext
    exact ⟨front.toList, htext.symm, String.toList_ofList⟩

theorem trimmed_eq_empty_iff : trimmed whole = "" ↔ IsBlankText whole.toList := by
  rw [trimmed, ← String.toList_inj, String.toList_ofList, String.toList_empty, trim_eq_nil_iff]

theorem trimmed_eq_self {text : String} (h : ∀ c ∈ text.toList, isBlank c = false) :
    trimmed text = text := by
  rw [trimmed, trim_eq_self h, String.ofList_toList]

theorem trimmed_trimmed (text : String) : trimmed (trimmed text) = trimmed text := by
  have htrim : trim (trim text.toList) = trim text.toList := (trim_trimEnd _).trans (trim_trimStart _)
  rw [trimmed, trimmed, String.toList_ofList, htrim]

theorem trimmed_spaces (n : Nat) (text : String) :
    trimmed (.ofList (List.replicate n ' ') ++ text) = trimmed text := by
  have hspaces : IsBlankText (List.replicate n ' ') := isBlankText_replicate (by decide) n
  rw [trimmed, String.toList_append, String.toList_ofList, trim_append_of_blank_left hspaces]
  rfl

theorem trimmed_singleton (h : isBlank sep = false) : trimmed (front ++ .singleton sep ++ back) =
    .ofList (trimStart front.toList) ++ .singleton sep ++ .ofList (trimEnd back.toList) := by
  have hlist :
      (front ++ .singleton sep ++ back).toList = front.toList ++ sep :: back.toList := by simp
  rw [trimmed, hlist, trim_append_cons h, ← String.toList_inj]
  simp

/-- A text is cut alike without the white space around it, but for the white space at the ends. -/
theorem cut_trimmed (h : isBlank sep = false) : cut sep (trimmed whole) =
    (cut sep whole).map fun (front, back) =>
      (.ofList (trimStart front.toList), .ofList (trimEnd back.toList)) := by
  cases hcut : cut sep whole with
  | none =>
    rw [cut, Option.map_eq_none_iff, cutChars_eq_none_iff] at hcut
    rw [cut, trimmed, String.toList_ofList,
      cutChars_eq_none_iff.mpr fun hmem => hcut (mem_of_mem_trim hmem)]
    rfl
  | some parts =>
    obtain ⟨front, back⟩ := parts
    obtain ⟨hfront, rfl⟩ := cut_eq_some_iff.mp hcut
    rw [trimmed_singleton h, Option.map_some, cut_eq_some_iff]
    refine ⟨fun hmem => hfront ?_, rfl⟩
    rw [String.toList_ofList] at hmem
    exact mem_of_mem_trimStart hmem

theorem dropLeading_eq_iff {c : Char} : dropLeading c whole = back ↔
    back.toList.head? ≠ some c ∧ ∃ n, whole = .ofList (List.replicate n c) ++ back := by
  rw [dropLeading, ← String.toList_inj, String.toList_ofList, dropWhile_beq_eq_iff]
  simp [← String.toList_inj]

theorem dropTrailing_eq_iff {c : Char} : dropTrailing c whole = front ↔
    front.toList.getLast? ≠ some c ∧ ∃ n, whole = front ++ .ofList (List.replicate n c) := by
  have hreverse (n : Nat) : whole.toList.reverse = List.replicate n c ++ front.toList.reverse ↔
      whole = front ++ .ofList (List.replicate n c) := by
    rw [← String.toList_inj, ← List.reverse_inj]
    simp
  rw [dropTrailing, ← String.toList_inj, String.toList_ofList, List.reverse_eq_iff,
    dropWhile_beq_eq_iff, List.head?_reverse]
  simp only [hreverse]

end ClientGen.Text
