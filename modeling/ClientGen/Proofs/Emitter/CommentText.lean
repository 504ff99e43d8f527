import ClientGen.Proofs.Emitter.Rows
import ClientGen.Proofs.Text.Trimmed
import Mathlib.Data.List.Forall2

namespace ClientGen

open Text

namespace Text

variable {text line : List Char}

theorem exists_dropReturn (line : List Char) :
    ∃ after, IsBlankText after ∧ line = dropReturn line ++ after := by
  unfold dropReturn
  split
  · rename_i hlast
    exact ⟨['\r'], by decide, (List.dropLast_append_getLast? _ hlast).symm⟩
  · exact ⟨[], by decide, (List.append_nil line).symm⟩

theorem trimEnd_dropReturn (line : List Char) : trimEnd (dropReturn line) = trimEnd line := by
  obtain ⟨after, hblank, hline⟩ := exists_dropReturn line
  conv_rhs => rw [hline, trimEnd_append_of_blank hblank]

theorem dropReturn_of_getLast? (h : ∀ c, line.getLast? = some c → isBlank c = false) :
    dropReturn line = line := by
  refine if_neg fun hlast => ?_
  exact absurd (h '\r' hlast) (by decide)

theorem lines_of_splitOn {pieces : List (List Char)} (hsplit : text.splitOn '\n' = pieces ++ [line])
    (hne : line ≠ []) (hlast : ∀ c, line.getLast? = some c → isBlank c = false) :
    lines text = (text.splitOn '\n').map dropReturn := by
  rw [lines, hsplit, List.dropLast_concat, List.getLast?_concat, List.map_append, List.map_singleton,
    dropReturn_of_getLast? hlast]
  simp [hne]

/-- The lines of a text that does not end in white space are the pieces between its line feeds. -/
theorem lines_trimEnd (h : trimEnd text ≠ []) :
    lines (trimEnd text) = ((trimEnd text).splitOn '\n').map dropReturn := by
  have hlast : ∀ c, (trimEnd text).getLast? = some c → isBlank c = false :=
    fun c => not_isBlank_of_getLast?
  generalize trimEnd text = whole at h hlast
  by_cases hmem : '\n' ∈ whole
  · obtain ⟨after, before, hreverse, hafter⟩ :=
      List.eq_append_cons_of_mem (List.mem_reverse.mpr hmem)
    have hwhole : whole = before.reverse ++ '\n' :: after.reverse := by
      rw [← List.reverse_inj, hreverse]
      simp
    have hpiece : after.reverse.splitOn '\n' = [after.reverse] :=
      List.splitOn_eq_singleton (by simpa using hafter)
    have hsplit : whole.splitOn '\n' = before.reverse.splitOn '\n' ++ [after.reverse] := by
      rw [hwhole, List.splitOn_append_cons_self, hpiece]
    have hne : after.reverse ≠ [] := by
      intro hnil
      rw [hnil] at hwhole
      exact absurd (hlast '\n' (by rw [hwhole, List.getLast?_concat])) (by decide)
    have hend : whole.getLast? = after.reverse.getLast? := by
      rw [hwhole, List.getLast?_append_cons, List.getLast?_cons_of_ne_nil hne]
    exact lines_of_splitOn hsplit hne (hend ▸ hlast)
  · have hsplit : whole.splitOn '\n' = [] ++ [whole] := List.splitOn_eq_singleton hmem
    exact lines_of_splitOn hsplit h hlast

end Text

namespace Emitter

/-- What stands after the slashes of a comment on a line: nothing, or the line without the white
space at its end, which a space sets apart. -/
inductive Remark (line : List Char) : List Char → Prop
  | nothing (h : IsBlankText line) : Remark line []
  | spaced {rest : List Char} (h : trimEnd line = ' ' :: rest) : Remark line (' ' :: rest)
  | apart {c : Char} {rest : List Char} (h : trimEnd line = c :: rest) (hc : c ≠ ' ') :
    Remark line (' ' :: c :: rest)

def uncommented (row : List Char) : List Char :=
  match (row.dropWhile (· == '\t')).drop 2 with
  | ' ' :: rest => rest
  | rest => rest

structure CommentRow (level : Nat) (line row : List Char) : Prop where
  flat : '\n' ∉ row
  remark : ∃ remark, row = List.replicate level '\t' ++ '/' :: '/' :: remark ∧ Remark line remark
  solid : ∀ c, row.getLast? = some c → isBlank c = false
  /-- The row gives back the line, but for a space at its start and the white space at its end. -/
  restores : ∃ before after, (before = [] ∨ before = [' ']) ∧ IsBlankText after ∧
    line = before ++ uncommented row ++ after

variable {level : Nat} {line row remark : List Char} {c : Char}

theorem exists_remark (line : List Char) :
    ∃ remark, commentLine line = '/' :: '/' :: remark ∧ Remark line remark := by
  unfold commentLine
  split
  · rename_i hnil
    exact ⟨[], rfl, .nothing (trimEnd_eq_nil_iff.mp hnil)⟩
  · rename_i rest hspace
    exact ⟨_, rfl, .spaced hspace⟩
  · rename_i hnil hspace
    obtain ⟨c, rest, htext⟩ := List.exists_cons_of_ne_nil hnil
    rw [htext]
    exact ⟨_, rfl, .apart htext fun hc => hspace rest (hc ▸ htext)⟩

theorem Remark.solid (h : Remark line remark) (hc : ('/' :: '/' :: remark).getLast? = some c) :
    isBlank c = false := by
  cases h with
  | nothing =>
    cases hc
    decide
  | spaced h =>
    rw [← h, List.getLast?_cons_of_ne_nil (by simp), List.getLast?_cons_of_ne_nil (by simp [h])] at hc
    exact not_isBlank_of_getLast? hc
  | apart h =>
    rw [← h, List.getLast?_cons_of_ne_nil (by simp), List.getLast?_cons_of_ne_nil (by simp),
      List.getLast?_cons_of_ne_nil (by simp [h])] at hc
    exact not_isBlank_of_getLast? hc

theorem dropWhile_replicate (level : Nat) (rest : List Char) :
    (List.replicate level '\t' ++ '/' :: rest).dropWhile (· == '\t') = '/' :: rest :=
  dropWhile_beq_eq_iff.mpr ⟨by simp, level, rfl⟩

theorem Remark.restores (h : Remark line remark) (level : Nat) :
    ∃ before after, (before = [] ∨ before = [' ']) ∧ IsBlankText after ∧
      line = before ++ uncommented (List.replicate level '\t' ++ '/' :: '/' :: remark) ++ after := by
  obtain ⟨after, hblank, hafter⟩ := exists_trimEnd line
  unfold uncommented
  rw [dropWhile_replicate]
  cases h with
  | nothing h => exact ⟨[], line, .inl rfl, h, rfl⟩
  | spaced h =>
    rw [h] at hafter
    exact ⟨[' '], after, .inr rfl, hblank, hafter⟩
  | apart h =>
    rw [h] at hafter
    exact ⟨[], after, .inl rfl, hblank, hafter⟩

theorem commentRow (level : Nat) (h : '\n' ∉ line) :
    CommentRow level line (List.replicate level '\t' ++ commentLine line) := by
  obtain ⟨remark, hline, hremark⟩ := exists_remark line
  have hflat := notMem_commentLine h
  rw [hline] at hflat ⊢
  refine ⟨?_, ⟨remark, rfl, hremark⟩, fun c hc => ?_, hremark.restores level⟩
  · rw [List.mem_append, List.mem_replicate, not_or]
    exact ⟨by simp, hflat⟩
  · rw [List.getLast?_append_of_ne_nil _ (by simp)] at hc
    exact hremark.solid hc

theorem Remark.of_dropReturn (h : Remark (dropReturn line) remark) : Remark line remark := by
  cases h with
  | nothing h =>
    rw [← trimEnd_eq_nil_iff, trimEnd_dropReturn, trimEnd_eq_nil_iff] at h
    exact .nothing h
  | spaced h => exact .spaced (trimEnd_dropReturn line ▸ h)
  | apart h hc => exact .apart (trimEnd_dropReturn line ▸ h) hc

/-- A carriage return at the end of a line is white space like any other there. -/
theorem CommentRow.of_dropReturn (h : CommentRow level (dropReturn line) row) :
    CommentRow level line row := by
  obtain ⟨ending, hending, hline⟩ := exists_dropReturn line
  obtain ⟨remark, hrow, hremark⟩ := h.remark
  obtain ⟨before, after, hbefore, hafter, hrestored⟩ := h.restores
  refine ⟨h.flat, ⟨remark, hrow, hremark.of_dropReturn⟩, h.solid, before, after ++ ending, hbefore,
    ?_, ?_⟩
  · exact fun c hc => (List.mem_append.mp hc).elim (hafter c) (hending c)
  · rw [← List.append_assoc, ← hrestored]
    exact hline

/-- A comment leaves the level as it is and adds a row for each line of its text without the white
space at its end, from which the line can be read again. The lines are what stands between line
feeds. -/
theorem comment_keeps_lines (em : Emitter) (text : String) :
    (em.comment text).level = em.level ∧
      ∃ rows, (em.comment text).text.toList = em.text.toList ++ rows.flatMap (· ++ ['\n']) ∧
        List.Forall₂ (CommentRow em.level) (lines (trimEnd text.toList)) rows ∧
        (IsBlankText text.toList → rows = []) ∧
        (¬IsBlankText text.toList →
          List.Forall₂ (CommentRow em.level) ((trimEnd text.toList).splitOn '\n') rows) := by
  have hrun : em.comment text = em.run [.comment text] := rfl
  have hrows : List.Forall₂ (CommentRow em.level) (lines (trimEnd text.toList))
      (Op.rows em.level (.comment text)) := by
    rw [Op.rows, List.forall₂_map_right_iff, List.forall₂_same]
    exact fun line hline => commentRow em.level (notMem_of_mem_lines hline)
  rw [hrun, run_eq]
  refine ⟨levelAfter_comment text, _, ?_, hrows, fun hblank => ?_, fun hblank => ?_⟩
  · rw [String.toList_append, written_comment_eq]
  · rw [trimEnd_eq_nil_iff.mpr hblank] at hrows
    exact List.forall₂_nil_left_iff.mp hrows
  · rw [← trimEnd_eq_nil_iff] at hblank
    rw [lines_trimEnd hblank, List.forall₂_map_left_iff] at hrows
    exact hrows.imp fun _ _ => CommentRow.of_dropReturn

end Emitter

end ClientGen
