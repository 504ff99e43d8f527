import ClientGen.Proofs.Emitter.Level
import ClientGen.Proofs.Text.Split

namespace ClientGen

open Text

def isCommentLine (line : List Char) : Bool :=
  ['/', '/'].isPrefixOf (line.dropWhile (· == '\t'))

def codeLines (text : List Char) : List (List Char) :=
  (text.splitOn '\n').filter (!isCommentLine ·)

theorem isCommentLine_replicate (level : Nat) (rest : List Char) :
    isCommentLine (List.replicate level '\t' ++ '/' :: '/' :: rest) = true := by
  have htabs : ∀ c ∈ List.replicate level '\t', (c == '\t') = true := by simp
  rw [isCommentLine, List.dropWhile_append_of_pos htabs]
  rfl

namespace Emitter

def Op.rows (level : Nat) : Op → List (List Char)
  | .line template =>
    let text := trim template.toList
    if text.isEmpty then [[]] else [List.replicate (level - closers text) '\t' ++ text]
  | .blank => [[]]
  | .comment text =>
    (lines (trimEnd text.toList)).map fun line => List.replicate level '\t' ++ commentLine line
  | .enter | .leave => []

def rows (level : Nat) : List Op → List (List Char)
  | [] => []
  | op :: ops => op.rows level ++ rows (levelAfter level [op]) ops

variable {level : Nat} {op : Op} {ops more : List Op}

theorem rows_append :
    rows level (ops ++ more) = rows level ops ++ rows (levelAfter level ops) more := by
  induction ops generalizing level with
  | nil => rfl
  | cons op ops ih =>
    rw [List.cons_append, rows, ih, ← levelAfter_cons, rows, List.append_assoc]

theorem written_comment_eq (text : String) : (written level [.comment text]).toList =
    (Op.rows level (.comment text)).flatMap (· ++ ['\n']) := by
  change (comment { level } text).text.toList = _
  rw [comment, Op.rows, List.flatMap_map]
  generalize lines (trimEnd text.toList) = all
  -- the text before the comment is general for the induction over its lines
  have hfold : ∀ em : Emitter, em.level = level →
      (all.foldl (fun em line => em.writeIndented (commentLine line)) em).text.toList =
        em.text.toList ++
          all.flatMap fun line => (List.replicate level '\t' ++ commentLine line) ++ ['\n'] := by
    induction all with
    | nil => simp
    | cons line all ih =>
      intro em hem
      rw [List.foldl_cons, ih (em.writeIndented (commentLine line)) hem, List.flatMap_cons]
      simp [writeIndented, push, indented, hem]
  exact hfold { level } rfl

theorem written_op : (written level [op]).toList = (op.rows level).flatMap (· ++ ['\n']) := by
  cases op with
  | line template =>
    change (line { level } template).text.toList = _
    unfold line Op.rows
    dsimp only
    split <;> simp [writeIndented, push, indented]
  | blank => simp [written, run, apply, blank, push, Op.rows]
  | comment text => exact written_comment_eq text
  | enter | leave => rfl

/-- A text is its rows, each ended by a line feed. -/
theorem toList_written : (written level ops).toList = (rows level ops).flatMap (· ++ ['\n']) := by
  induction ops generalizing level with
  | nil => rfl
  | cons op ops ih =>
    rw [written_cons, String.toList_append, written_op, ih, rows, List.flatMap_append]

/-- The lines of a text that was written are those of its rows. -/
theorem splitOn_written (rest : List Char) : ((written level ops).toList ++ rest).splitOn '\n' =
    (rows level ops).flatMap (·.splitOn '\n') ++ rest.splitOn '\n' := by
  rw [toList_written]
  induction rows level ops with
  | nil => rfl
  | cons row rows ih =>
    have hrow : (row ++ ['\n']) ++ (rows.flatMap (· ++ ['\n']) ++ rest) =
        row ++ '\n' :: (rows.flatMap (· ++ ['\n']) ++ rest) := by
      rw [List.append_assoc, List.singleton_append]
    rw [List.flatMap_cons, List.append_assoc, hrow, List.splitOn_append_cons_self, List.flatMap_cons,
      List.append_assoc, ih]

theorem codeLines_written (rest : List Char) :
    codeLines ((written level ops).toList ++ rest) =
      ((rows level ops).flatMap (·.splitOn '\n')).filter (!isCommentLine ·) ++ codeLines rest := by
  rw [codeLines, splitOn_written, List.filter_append]
  rfl

theorem notMem_commentLine {line : List Char} (h : '\n' ∉ line) : '\n' ∉ commentLine line := by
  have htrim : '\n' ∉ trimEnd line := fun hc => h (mem_of_mem_trimEnd hc)
  unfold commentLine
  split <;> simp_all

theorem commentLine_eq (line : List Char) : ∃ rest, commentLine line = '/' :: '/' :: rest := by
  unfold commentLine
  split <;> exact ⟨_, rfl⟩

/-- Each row of a comment is one line, on which two slashes come after the tabs. -/
theorem exists_of_mem_rows_comment {text : String} {row : List Char}
    (h : row ∈ Op.rows level (.comment text)) :
    '\n' ∉ row ∧ ∃ rest, row = List.replicate level '\t' ++ '/' :: '/' :: rest := by
  obtain ⟨line, hl, rfl⟩ := List.mem_map.mp h
  obtain ⟨rest, hrest⟩ := commentLine_eq line
  have hline := notMem_commentLine (notMem_of_mem_lines hl)
  refine ⟨?_, rest, by rw [hrest]⟩
  rw [List.mem_append, List.mem_replicate, not_or]
  exact ⟨by simp, hline⟩

end Emitter

end ClientGen
