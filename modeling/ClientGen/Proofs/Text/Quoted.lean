import ClientGen.Text.Numeral
import ClientGen.Text.Quoted
import Mathlib.Tactic.SplitIfs

namespace ClientGen.Text

theorem hexDigit?_digitChar : ∀ n < 16, hexDigit? n.digitChar = some n := by
  decide

def hexValue (digits : List Char) : Nat :=
  digits.foldl (fun n c => 16 * n + (hexDigit? c).getD 0) 0

theorem hexValue_toDigits (n : Nat) : hexValue (Nat.toDigits 16 n) = n := by
  induction n using Nat.strongRecOn with
  | ind n ih =>
    rw [Nat.toDigits_eq_if (by omega)]
    split
    · simp [hexValue, hexDigit?_digitChar n ‹_›]
    · have hdiv : hexValue (Nat.toDigits 16 (n / 16)) = n / 16 := ih _ (by omega)
      have hmod := hexDigit?_digitChar (n % 16) (by omega)
      rw [hexValue] at hdiv
      rw [hexValue, List.foldl_append, hdiv]
      simp only [List.foldl_cons, List.foldl_nil, hmod, Option.getD_some]
      omega

theorem hexDigit?_isSome_of_mem_toDigits {n : Nat} {c : Char} (h : c ∈ Nat.toDigits 16 n) :
    (hexDigit? c).isSome := by
  induction n using Nat.strongRecOn with
  | ind n ih =>
    rw [Nat.toDigits_eq_if (by omega)] at h
    split at h
    · rename_i hn
      rw [List.mem_singleton] at h
      rw [h, hexDigit?_digitChar n hn]
      rfl
    · rcases List.mem_append.mp h with h | h
      · exact ih _ (by omega) h
      · rw [List.mem_singleton] at h
        rw [h, hexDigit?_digitChar _ (by omega)]
        rfl

theorem notMem_toDigits {n : Nat} {c : Char} (h : hexDigit? c = none) : c ∉ Nat.toDigits 16 n := by
  intro hc
  have hsome := hexDigit?_isSome_of_mem_toDigits hc
  rw [h] at hsome
  cases hsome

namespace Quoted

def unescape? : List Char → Option (Char × List Char)
  | '\\' :: 'u' :: rest =>
    some (Char.ofNat (hexValue (rest.tail.takeWhile (· != '\x7d'))),
      (rest.tail.dropWhile (· != '\x7d')).tail)
  | '\\' :: '0' :: rest => some ('\x00', rest)
  | '\\' :: 't' :: rest => some ('\t', rest)
  | '\\' :: 'r' :: rest => some ('\r', rest)
  | '\\' :: 'n' :: rest => some ('\n', rest)
  | '\\' :: c :: rest => some (c, rest)
  | c :: rest => some (c, rest)
  | [] => none

theorem unescape?_escape (c : Char) (rest : List Char) :
    unescape? (escape c ++ rest) = some (c, rest) := by
  unfold escape
  split_ifs with h0 ht hr hn hq hb hu
  case pos | pos | pos | pos | pos | pos => subst c; rfl
  · have hne : ∀ d ∈ Nat.toDigits 16 c.toNat, (d != '\x7d') = true := by
      rintro d hd
      rw [bne_iff_ne]
      rintro rfl
      exact notMem_toDigits (by decide) hd
    simp only [List.cons_append, List.nil_append, List.append_assoc, unescape?, List.tail_cons]
    rw [List.takeWhile_append_of_pos hne, List.dropWhile_append_of_pos hne]
    simp [hexValue_toDigits]
  · unfold unescape?
    simp [hb]

theorem escape_append_inj {c d : Char} {xs ys : List Char} (h : escape c ++ xs = escape d ++ ys) :
    c = d ∧ xs = ys := by
  have hread : unescape? (escape c ++ xs) = unescape? (escape d ++ ys) := by rw [h]
  rw [unescape?_escape, unescape?_escape] at hread
  cases hread
  exact ⟨rfl, rfl⟩

theorem flatMap_escape_inj {xs ys : List Char} (h : xs.flatMap escape = ys.flatMap escape) :
    xs = ys := by
  have hnil (c : Char) (rest : List Char) : escape c ++ rest ≠ [] := by
    intro he
    have hread := unescape?_escape c rest
    rw [he] at hread
    cases hread
  induction xs generalizing ys with
  | nil =>
    cases ys with
    | nil => rfl
    | cons d ys => exact absurd h.symm (hnil d _)
  | cons c xs ih =>
    cases ys with
    | nil => exact absurd h (hnil c _)
    | cons d ys =>
      obtain ⟨rfl, hrest⟩ := escape_append_inj h
      rw [ih hrest]

/-- A quote that stands for itself comes after a backslash. -/
theorem getLast?_of_escape {c : Char} {before after : List Char}
    (h : escape c = before ++ '"' :: after) : before.getLast? = some '\\' := by
  have hmem : '"' ∈ escape c := by simp [h]
  unfold escape at h hmem
  split_ifs at h hmem with h0 ht hr hn hq hb hu
  case pos | pos | pos | pos => simp at hmem
  · match before with
    | [] => simp at h
    | [b] =>
      simp only [List.cons_append, List.nil_append, List.cons.injEq] at h
      simp [← h.1]
    | _ :: _ :: _ => simp at h
  · simp at hmem
  · simp only [List.cons_append, List.nil_append, List.mem_cons, List.mem_append] at hmem
    simp [notMem_toDigits (c := '"') (by decide)] at hmem
  · rw [List.mem_singleton] at hmem
    exact absurd hmem.symm hq

theorem getLast?_of_flatMap_escape {text before after : List Char}
    (h : text.flatMap escape = before ++ '"' :: after) : before.getLast? = some '\\' := by
  induction text generalizing before with
  | nil => simp at h
  | cons c text ih =>
    rw [List.flatMap_cons] at h
    rcases List.append_eq_append_iff.mp h with ⟨l, rfl, hrest⟩ | ⟨l, hc, hrest⟩
    · have hl := ih hrest
      rw [List.getLast?_append, hl]
      rfl
    · cases l with
      | nil =>
        have hnil := @ih [] hrest.symm
        cases hnil
      | cons q l =>
        cases hrest
        exact getLast?_of_escape hc

/-- Where a quoted text at the end begins is known, if no backslash is before it. -/
theorem append_chars_inj {xs ys before before' : List Char} (hb : before.getLast? ≠ some '\\')
    (hb' : before'.getLast? ≠ some '\\') (h : before ++ chars xs = before' ++ chars ys) :
    before = before' ∧ xs = ys := by
  -- the longer beginning would end in a backslash
  have hend {xs ys before l : List Char} (hl : (before ++ l).getLast? ≠ some '\\')
      (h : '"' :: xs.flatMap escape = l ++ '"' :: ys.flatMap escape) : l = [] := by
    cases l with
    | nil => rfl
    | cons q l =>
      rw [List.cons_append, List.cons.injEq] at h
      have hlast := getLast?_of_flatMap_escape h.2
      rw [List.getLast?_append, List.getLast?_cons, hlast] at hl
      exact absurd rfl hl
  have hopen : before ++ '"' :: xs.flatMap escape = before' ++ '"' :: ys.flatMap escape := by
    simp only [chars, ← List.append_assoc] at h
    exact List.append_cancel_right h
  have hsame : before = before' := by
    rcases List.append_eq_append_iff.mp hopen with ⟨l, rfl, hrest⟩ | ⟨l, rfl, hrest⟩
    · rw [hend hb' hrest, List.append_nil]
    · rw [hend hb hrest, List.append_nil]
  refine ⟨hsame, ?_⟩
  rw [hsame] at hopen
  have htail := List.append_cancel_left hopen
  rw [List.cons.injEq] at htail
  exact flatMap_escape_inj htail.2

theorem newline_notMem_escape (c : Char) : '\n' ∉ escape c := by
  have hdigits : '\n' ∉ Nat.toDigits 16 c.toNat := notMem_toDigits (by decide)
  unfold escape
  split_ifs
  all_goals simp_all [Ne.symm]

end Quoted

theorem toList_quoted (text : String) :
    (quoted text).toList = '"' :: (text.toList.flatMap Quoted.escape ++ ['"']) := by
  rw [quoted, String.toList_ofList]
  rfl

theorem newline_notMem_quoted (text : String) : '\n' ∉ (quoted text).toList := by
  rw [quoted, String.toList_ofList, Quoted.chars]
  simp [Quoted.newline_notMem_escape]

end ClientGen.Text
