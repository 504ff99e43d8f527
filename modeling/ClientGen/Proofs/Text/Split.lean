import ClientGen.Text.Blank
import ClientGen.Text.Split

namespace ClientGen.Text

variable {text piece line : List Char} {c : Char}

theorem mem_and_of_mem_splitOnP {p : Char → Bool} (hp : piece ∈ text.splitOnP p) (hc : c ∈ piece) :
    c ∈ text ∧ p c = false := by
  induction text generalizing piece with
  | nil =>
    rw [List.splitOnP_nil, List.mem_singleton] at hp
    rw [hp] at hc
    cases hc
  | cons d text ih =>
    rw [List.splitOnP_cons_eq_if_modifyHead] at hp
    split at hp
    · obtain rfl | hp := List.mem_cons.mp hp
      · cases hc
      · exact (ih hp hc).imp_left (List.mem_cons_of_mem _)
    · rename_i hd
      cases hs : text.splitOnP p with
      | nil => exact absurd hs (List.splitOnP_ne_nil _ _)
      | cons first rest =>
        rw [hs] at hp ih
        obtain rfl | hp := List.mem_cons.mp hp
        · obtain rfl | hc := List.mem_cons.mp hc
          · exact ⟨List.mem_cons_self, by simpa using hd⟩
          · exact (ih List.mem_cons_self hc).imp_left (List.mem_cons_of_mem _)
        · exact (ih (List.mem_cons_of_mem _ hp) hc).imp_left (List.mem_cons_of_mem _)

theorem eq_false_of_mem_splitOnP {p : Char → Bool} (hp : piece ∈ text.splitOnP p) (hc : c ∈ piece) :
    p c = false :=
  (mem_and_of_mem_splitOnP hp hc).2

theorem exists_splitOnP_append (p : Char → Bool) (front : List Char) :
    ∃ pieces piece, ∀ back, (∀ c ∈ back, p c = false) →
      (front ++ back).splitOnP p = pieces ++ [piece ++ back] := by
  induction front with
  | nil => exact ⟨[], [], fun back h => List.splitOnP_eq_singleton h⟩
  | cons c front ih =>
    obtain ⟨pieces, piece, hpieces⟩ := ih
    by_cases hc : p c
    · refine ⟨[] :: pieces, piece, fun back h => ?_⟩
      rw [List.cons_append, List.splitOnP_cons_eq_if_modifyHead, if_pos hc, hpieces back h]
      rfl
    · cases pieces with
      | nil =>
        refine ⟨[], c :: piece, fun back h => ?_⟩
        rw [List.cons_append, List.splitOnP_cons_eq_if_modifyHead, if_neg hc, hpieces back h]
        rfl
      | cons first pieces =>
        refine ⟨(c :: first) :: pieces, piece, fun back h => ?_⟩
        rw [List.cons_append, List.splitOnP_cons_eq_if_modifyHead, if_neg hc, hpieces back h]
        rfl

theorem mem_of_mem_splitOn {sep : Char} (hp : piece ∈ text.splitOn sep) (hc : c ∈ piece) : c ∈ text :=
  (mem_and_of_mem_splitOnP hp hc).1

theorem notMem_of_mem_splitOn {sep : Char} (h : piece ∈ text.splitOn sep) : sep ∉ piece := by
  intro hc
  have hsep := eq_false_of_mem_splitOnP h hc
  simp at hsep

theorem splitOn_cons {sep : Char} (c : Char) (text : List Char) : (c :: text).splitOn sep =
    if c = sep then [] :: text.splitOn sep else (text.splitOn sep).modifyHead (c :: ·) := by
  rw [List.splitOn_eq_splitOnP, List.splitOn_eq_splitOnP, List.splitOnP_cons_eq_if_modifyHead]
  simp

/-- A text keeps the pieces of its front just if the front ends where a piece ends. -/
theorem splitOn_prefix_iff {sep : Char} {a b : List Char} :
    a.splitOn sep <+: (a ++ b).splitOn sep ↔ b = [] ∨ b.head? = some sep := by
  induction a with
  | nil =>
    cases b with
    | nil => simp
    | cons c b =>
      rw [List.nil_append, splitOn_cons]
      by_cases hc : c = sep
      · simp [hc]
      · obtain ⟨piece, pieces, hpieces⟩ := List.exists_cons_of_ne_nil (List.splitOn_ne_nil sep b)
        simp [hc, hpieces]
  | cons c a ih =>
    rw [List.cons_append, splitOn_cons, splitOn_cons, ← ih]
    by_cases hc : c = sep
    · simp [hc]
    · obtain ⟨piece, pieces, hpieces⟩ := List.exists_cons_of_ne_nil (List.splitOn_ne_nil sep a)
      obtain ⟨whole, wholes, hwholes⟩ := List.exists_cons_of_ne_nil (List.splitOn_ne_nil sep (a ++ b))
      simp [hc, hpieces, hwholes]

theorem pieces_prefix_iff {sep : Char} {front back : String} :
    pieces sep front <+: pieces sep (front ++ back) ↔ back = "" ∨ back.toList.head? = some sep := by
  have hinjective : Function.Injective (String.ofList) := fun a b h => String.ofList_inj.mp h
  rw [pieces, pieces, List.prefix_map_iff_of_injective hinjective, String.toList_append,
    splitOn_prefix_iff, String.toList_eq_nil_iff]

theorem pieces_intercalate {sep : Char} {all : List String} (hne : all ≠ [])
    (h : ∀ piece ∈ all, sep ∉ piece.toList) :
    pieces sep ((String.singleton sep).intercalate all) = all := by
  have hlists : ∀ piece ∈ all.map String.toList, sep ∉ piece := by simpa using h
  rw [pieces, String.toList_intercalate, String.toList_singleton,
    List.splitOn_intercalate sep hlists (by simpa using hne), List.map_map]
  simp

theorem mem_of_mem_trimEnd (h : c ∈ trimEnd text) : c ∈ text := by
  rw [trimEnd, List.mem_reverse] at h
  exact List.mem_reverse.mp ((List.dropWhile_suffix _).subset h)

theorem mem_of_mem_dropReturn (h : c ∈ dropReturn line) : c ∈ line := by
  unfold dropReturn at h
  split at h
  · exact List.dropLast_subset _ h
  · exact h

theorem notMem_of_mem_lines (h : line ∈ lines text) : '\n' ∉ line := by
  intro hc
  obtain h | h := List.mem_append.mp h
  · obtain ⟨piece, hp, rfl⟩ := List.mem_map.mp h
    exact notMem_of_mem_splitOn (List.dropLast_subset _ hp) (mem_of_mem_dropReturn hc)
  · have hlast := Option.mem_toList.mp (List.mem_filter.mp h).1
    exact notMem_of_mem_splitOn (List.mem_of_getLast? hlast) hc

end ClientGen.Text
