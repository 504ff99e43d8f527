import ClientGen.Proofs.Emitter.Tidy
import ClientGen.Proofs.Text.Trimmed

namespace ClientGen

open Text Code

def Text.ofRows (rows : List String) : String := String.join (rows.map (· ++ "\n"))

theorem Text.ofRows_append (rows more : List String) :
    ofRows (rows ++ more) = ofRows rows ++ ofRows more := by
  rw [ofRows, List.map_append, String.join_append]
  rfl

namespace Emitter

variable {level k : Nat} {ops more : List Op} {a text : String} {texts : List String}
  {parts : List Code}

def tabs (level : Nat) : String := .ofList (List.replicate level '\t')

def printed (level : Nat) (ops : List Op) : List String :=
  (rows level ops).map .ofList

theorem written_eq_ofRows : written level ops = ofRows (printed level ops) := by
  rw [← String.toList_inj, toList_written, printed, ofRows]
  induction rows level ops with
  | nil => rfl
  | cons row rows ih =>
    rw [List.flatMap_cons, ih, List.map_cons, List.map_cons, String.join_cons, String.toList_append]
    simp

theorem printed_append (h : Rises k ops) :
    printed level (ops ++ more) = printed level ops ++ printed (level + k) more := by
  rw [printed, rows_append, h, List.map_append]
  rfl

theorem printed_line_cons {opens : Nat} (h : IsLine 0 opens text) :
    printed level (.line text :: ops) = (tabs level ++ text) :: printed (level + opens) ops := by
  have hlevel : levelAfter level [.line text] = level + opens :=
    levelAfter_of_after? ((after?_line h).trans (if_pos (Nat.zero_le _)))
  rw [printed, rows, rows_line h, hlevel, List.singleton_append, List.map_cons, String.ofList_append,
    String.ofList_toList]
  rfl

theorem printed_cons {part : Code} (h : Rises 0 part) :
    printed level (part :: parts).flatten = printed level part ++ printed level parts.flatten := by
  rw [List.flatten_cons, printed_append h]
  rfl

/-- A line is written as it is if no white space is dropped at its end. -/
theorem printed_line (hs : starts a) (he : trimEnd a.toList = a.toList) :
    printed level (Code.line a) = [tabs level ++ a] := by
  have htrim : trim a.toList = a.toList := (trim_of_starts hs).trans he
  have hclosers : closers a.toList = 0 := by
    rw [← htrim]
    exact closers_of_starts hs
  obtain ⟨c, cs, hc, _⟩ := exists_of_starts hs
  have hrow : Op.rows level (.line a) = [List.replicate level '\t' ++ a.toList] := by
    unfold Op.rows
    dsimp only
    rw [htrim, hclosers, if_neg (by simp [hc])]
    rfl
  rw [printed, Code.line, rows, hrow, rows, List.append_nil, List.map_singleton,
    String.ofList_append, String.ofList_toList]
  rfl

theorem rises_lines (h : ∀ text ∈ texts, starts text ∧ ends text) : Rises 0 (Code.lines texts) := by
  induction texts with
  | nil => exact .nil
  | cons text texts ih =>
    obtain ⟨hs, he⟩ := h text List.mem_cons_self
    exact Rises.append (Rises.plain hs he) (ih fun text ht => h text (List.mem_cons_of_mem _ ht))

theorem printed_lines (h : ∀ text ∈ texts, starts text ∧ ends text) :
    printed level (Code.lines texts) = texts.map (tabs level ++ ·) := by
  induction texts with
  | nil => rfl
  | cons text texts ih =>
    obtain ⟨hs, he⟩ := h text List.mem_cons_self
    have hsplit : Code.lines (text :: texts) = Code.line text ++ Code.lines texts := rfl
    rw [hsplit, printed_append (Rises.plain hs he),
      printed_line hs (trimEnd_of_ends he), Nat.add_zero,
      ih fun text ht => h text (List.mem_cons_of_mem _ ht)]
    rfl

theorem printed_block (hs : starts a) (ho : openers a.toList = 0) (h : Rises 0 parts.flatten) :
    printed level (Code.block a parts) =
      [tabs level ++ (a ++ "\x7b")] ++ printed (level + 1) parts.flatten ++
      [tabs level ++ "\x7d"] := by
  have hhead : Rises 1 (Code.line (a ++ "\x7b")) :=
    (Rises.line (starts_append hs _)).of_eq (openers_trimEnd_brace ho)
  have hclose : printed (level + 1) [.line ("\x7d" ++ "")] = [tabs level ++ "\x7d"] := by
    change [String.ofList (List.replicate (level + 1 - 1) '\t' ++ ['\x7d'])] = _
    rw [String.ofList_append]
    rfl
  have hsplit : Code.block a parts =
      Code.line (a ++ "\x7b") ++ (parts.flatten ++ [.line ("\x7d" ++ "")]) := rfl
  rw [hsplit, printed_append hhead, printed_line (starts_append hs _) (trimEnd_brace a),
    printed_append h, Nat.add_zero, hclose, List.append_assoc]

theorem Tidy.rises {code : Code} (h : Tidy code) : Rises 0 code := by
  intro level
  refine levelAfter_of_levelAfter? ?_
  induction level with
  | zero => exact h.level_eq
  | succ level ih => exact levelAfter?_succ ih

/-- The rows of a piece stand together where the piece does. -/
theorem printed_isInfix {part : Code} (h : ∀ part ∈ parts, Tidy part) (hp : part ∈ parts) :
    printed 0 part <:+: printed 0 parts.flatten := by
  obtain ⟨before, after, rfl⟩ := List.append_of_mem hp
  have hbefore : Tidy before.flatten := .flatten fun part hp => h part (List.mem_append_left _ hp)
  rw [List.flatten_append, List.flatten_cons, printed_append hbefore.rises,
    printed_append (h part hp).rises]
  exact ⟨_, _, List.append_assoc ..⟩

theorem Rises.when {condition : Bool} (h : Rises 0 parts.flatten) :
    Rises 0 (Code.when condition parts) := by
  cases condition with
  | true => exact h
  | false => exact .nil

theorem tabs_zero_append (text : String) : tabs 0 ++ text = text := String.empty_append

theorem printed_blank : printed level Code.blank = [""] := rfl

theorem trimStart_of_starts (h : starts text) : trimStart text.toList = text.toList := by
  obtain ⟨c, cs, hc, hblank, _⟩ := exists_of_starts h
  rw [trimStart, hc, List.dropWhile_cons_of_neg (by simp [hblank])]

theorem isBlankText_tabs (level : Nat) : IsBlankText (tabs level).toList := by
  rw [tabs, String.toList_ofList]
  exact isBlankText_replicate (by decide) level

/-- A row without its tabs, if it begins and ends as lines do. -/
theorem trimmed_tabs (hs : starts text) (he : ends text) (level : Nat) :
    trimmed (tabs level ++ text) = text := by
  rw [trimmed, String.toList_append, trim_append_of_blank_left (isBlankText_tabs level),
    trim_of_starts hs, trimEnd_of_ends he, String.ofList_toList]

end Emitter

end ClientGen
