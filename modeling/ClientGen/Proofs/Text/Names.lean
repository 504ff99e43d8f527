import ClientGen.Proofs.Emitter.Level
import ClientGen.Proofs.Text.Words

namespace ClientGen.Text

open Emitter

def isNamePart (c : Char) : Bool :=
  isAlphanumeric c || c == '_'

def IsName (text : String) : Prop :=
  text ≠ "" ∧ ∀ c ∈ text.toList, isNamePart c

instance (text : String) : Decidable (IsName text) :=
  decidable_of_iff (text ≠ "" ∧ text.toList.all isNamePart) (by rw [IsName, List.all_eq_true])

def IsPath (text : String) : Prop :=
  ∀ c ∈ text.toList, isNamePart c ∨ c = '.'

instance (text : String) : Decidable (IsPath text) :=
  decidable_of_iff (text.toList.all fun c => isNamePart c || c == '.') (by simp [IsPath])

variable {a b text : String} {c : Char} {l rest : List Char}

theorem isOrdinary_of_isNamePart (h : isNamePart c) : isOrdinary c := by
  obtain h | h := Bool.or_eq_true_iff.mp h
  · exact isOrdinary_of_isAlphanumeric h
  · rw [eq_of_beq h]
    decide

theorem not_isBlank_of_isOrdinary (h : isOrdinary c) : isBlank c = false :=
  isBlank_of_isSolid (isSolid_of_isOrdinary h)

theorem newline_notMem_of_isOrdinary (h : ∀ c ∈ l, isOrdinary c) : '\n' ∉ l := by
  intro hc
  exact absurd (h _ hc) (by decide)

theorem starts_of_isOrdinary (hne : a ≠ "") (h : ∀ c ∈ a.toList, isOrdinary c) : starts a := by
  cases hl : a.toList with
  | nil => exact absurd (String.toList_eq_nil_iff.mp hl) hne
  | cons c cs =>
    have hc := h c (by rw [hl]; exact List.mem_cons_self)
    rw [starts, hl]
    simp [not_isBlank_of_isOrdinary hc, (ne_of_isOrdinary hc).2]

theorem ends_of_isOrdinary (hne : a ≠ "") (h : ∀ c ∈ a.toList, isOrdinary c) : ends a := by
  cases hl : a.toList.reverse with
  | nil => exact absurd (String.toList_eq_nil_iff.mp (List.reverse_eq_nil_iff.mp hl)) hne
  | cons c cs =>
    have hc := h c (List.mem_reverse.mp (by rw [hl]; exact List.mem_cons_self))
    rw [ends, hl]
    simp [not_isBlank_of_isOrdinary hc, (ne_of_isOrdinary hc).1]

namespace IsName

theorem isOrdinary (h : IsName a) : ∀ c ∈ a.toList, isOrdinary c :=
  fun c hc => isOrdinary_of_isNamePart (h.2 c hc)

theorem starts (h : IsName a) : starts a := starts_of_isOrdinary h.1 h.isOrdinary

theorem ends (h : IsName a) : ends a := ends_of_isOrdinary h.1 h.isOrdinary

theorem newline_notMem (h : IsName a) : '\n' ∉ a.toList :=
  newline_notMem_of_isOrdinary h.isOrdinary

theorem ofList (h : !l.isEmpty && l.all isNamePart) : IsName (.ofList l) := by
  simp only [Bool.and_eq_true, Bool.not_eq_true', List.isEmpty_eq_false_iff, List.all_eq_true] at h
  refine ⟨fun hl => h.1 ?_, by simpa using h.2⟩
  rw [← String.toList_ofList (l := l), hl]
  rfl

theorem append (ha : IsName a) (hb : ∀ c ∈ b.toList, isNamePart c) : IsName (a ++ b) := by
  refine ⟨fun h => ha.1 (String.append_eq_empty_iff.mp h).1, fun c hc => ?_⟩
  rw [String.toList_append, List.mem_append] at hc
  exact hc.elim (ha.2 c) (hb c)

theorem literal (ha : IsName a) (h : l.all isNamePart) : IsName (a ++ .ofList l) :=
  ha.append (by simpa using h)

theorem prepend (hb : IsName b) (ha : ∀ c ∈ a.toList, isNamePart c) : IsName (a ++ b) := by
  refine ⟨fun h => hb.1 (String.append_eq_empty_iff.mp h).2, fun c hc => ?_⟩
  rw [String.toList_append, List.mem_append] at hc
  exact hc.elim (ha c) (hb.2 c)

end IsName

theorem IsPath.newline_notMem (h : IsPath a) : '\n' ∉ a.toList := by
  intro hc
  obtain hc | hc := h _ hc
  · exact absurd (isOrdinary_of_isNamePart hc) (by decide)
  · cases hc

def word (text : List Char) : List Char :=
  text.takeWhile isNamePart

theorem word_append (h : ∀ c ∈ l, isNamePart c) (hr : rest.head?.any isNamePart = false) :
    word (l ++ rest) = l := by
  rw [word, List.takeWhile_append_of_pos h]
  cases rest with
  | nil => exact List.append_nil _
  | cons c cs =>
    have hc : isNamePart c = false := hr
    rw [List.takeWhile_cons_of_neg (by simp [hc]), List.append_nil]

end ClientGen.Text
