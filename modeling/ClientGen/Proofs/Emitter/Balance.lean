import ClientGen.Proofs.Emitter.Printed
import Mathlib.Algebra.Ring.Int.Defs
import Mathlib.Data.List.Induction
import Mathlib.Order.Bounds.Basic

namespace ClientGen.Emitter

open Text

/-- The levels that an operation closes before it writes. -/
def Op.closes : Op → Nat
  | .line template => closers (trim template.toList)
  | .leave => 1
  | .blank | .comment _ | .enter => 0

/-- The levels that an operation opens after it has written. -/
def Op.opens : Op → Nat
  | .line template => openers (trim template.toList)
  | .enter => 1
  | .blank | .comment _ | .leave => 0

def balance (ops : List Op) : Int :=
  (ops.map fun op => (op.opens : Int) - op.closes).sum

/-- By how much more is closed than was open before, at each operation that closes something. -/
def deficits (ops : List Op) : Set Int :=
  {d | ∃ before op, before ++ [op] <+: ops ∧ 0 < op.closes ∧ d = op.closes - balance before}

variable {level n : Nat} {op : Op} {ops : List Op} {d : Int} {template : String}

theorem le_length_takeWhile_iff {c : Char} {text : List Char} :
    n ≤ (text.takeWhile (· == c)).length ↔ List.replicate n c <+: text := by
  induction text generalizing n with
  | nil => simp [List.replicate_eq_nil_iff]
  | cons d text ih =>
    cases n with
    | zero => simp
    | succ n =>
      rw [List.replicate_succ, List.cons_prefix_cons, List.takeWhile_cons]
      by_cases hd : d = c
      · simp [hd, ih]
      · simp [hd, Ne.symm hd]

/-- A line closes as many levels as braces stand at its start. -/
theorem le_closes_line_iff : n ≤ (Op.line template).closes ↔
    List.replicate n '\x7d' <+: trim template.toList :=
  le_length_takeWhile_iff

/-- A line opens as many levels as braces stand at its end. -/
theorem le_opens_line_iff : n ≤ (Op.line template).opens ↔
    List.replicate n '\x7b' <:+ trim template.toList := by
  rw [← List.reverse_prefix, List.reverse_replicate]
  exact le_length_takeWhile_iff

theorem balance_append (ops more : List Op) : balance (ops ++ more) = balance ops + balance more := by
  rw [balance, List.map_append, List.sum_append]
  rfl

theorem balance_singleton (op : Op) : balance [op] = op.opens - op.closes := by
  rw [balance, List.map_singleton, List.sum_singleton]

theorem deficits_nil : deficits [] = ∅ := by
  refine Set.eq_empty_iff_forall_notMem.mpr ?_
  rintro d ⟨before, op, hbegin, _⟩
  exact absurd (List.prefix_nil.mp hbegin) (by simp)

theorem mem_deficits_snoc : d ∈ deficits (ops ++ [op]) ↔
    d ∈ deficits ops ∨ 0 < op.closes ∧ d = op.closes - balance ops := by
  constructor
  · rintro ⟨before, other, hbegin, hcloses, rfl⟩
    obtain heq | hbegin := List.prefix_concat_iff.mp hbegin
    · obtain ⟨rfl, hop⟩ := List.append_inj' heq rfl
      cases hop
      exact .inr ⟨hcloses, rfl⟩
    · exact .inl ⟨before, other, hbegin, hcloses, rfl⟩
  · rintro (⟨before, other, hbegin, hcloses, rfl⟩ | ⟨hcloses, rfl⟩)
    · exact ⟨before, other, hbegin.trans (List.prefix_append _ _), hcloses, rfl⟩
    · exact ⟨ops, op, List.prefix_rfl, hcloses, rfl⟩

/-- What one operation does to the level: first it closes, at most all that is open, then it
opens. -/
theorem levelAfter_op (level : Nat) (op : Op) :
    levelAfter level [op] = level - op.closes + op.opens := by
  cases op with
  | line template => exact levelAfter_line template
  | comment text => exact levelAfter_comment text
  | blank | enter | leave => rfl

/-- The level is the balance, raised by the level at the start or by the largest deficit. -/
theorem isGreatest_levelAfter (level : Nat) (ops : List Op) :
    IsGreatest (insert (level : Int) (deficits ops)) (levelAfter level ops - balance ops) := by
  induction ops using List.reverseRecOn with
  | nil =>
    have hstart : (levelAfter level [] : Int) - balance [] = level := Int.sub_zero _
    rw [deficits_nil, hstart, insert_empty_eq]
    exact isGreatest_singleton
  | append_singleton ops op ih =>
    obtain ⟨hmem, hle⟩ := ih
    rw [levelAfter_append, levelAfter_op, balance_append, balance_singleton]
    by_cases hopen : op.closes ≤ levelAfter level ops
    · -- nothing is lost: the raise stays, and the new deficit does not exceed it
      have hraise : ((levelAfter level ops - op.closes + op.opens : Nat) : Int) -
          (balance ops + (op.opens - op.closes)) = levelAfter level ops - balance ops := by
        omega
      rw [hraise]
      refine ⟨hmem.imp_right fun h => mem_deficits_snoc.mpr (.inl h), ?_⟩
      rintro d (rfl | hd)
      · exact hle (Set.mem_insert _ _)
      · obtain hd | ⟨_, rfl⟩ := mem_deficits_snoc.mp hd
        · exact hle (Set.mem_insert_of_mem _ hd)
        · omega
    · -- more is closed than is open: this deficit is the largest so far
      have hraise : ((levelAfter level ops - op.closes + op.opens : Nat) : Int) -
          (balance ops + (op.opens - op.closes)) = op.closes - balance ops := by
        omega
      rw [hraise]
      refine ⟨.inr (mem_deficits_snoc.mpr (.inr ⟨by omega, rfl⟩)), ?_⟩
      have hless {e : Int} (he : e ∈ insert (level : Int) (deficits ops)) :
          e ≤ op.closes - balance ops := by
        have := hle he
        omega
      rintro d (rfl | hd)
      · exact hless (Set.mem_insert _ _)
      · obtain hd | ⟨_, rfl⟩ := mem_deficits_snoc.mp hd
        · exact hless (Set.mem_insert_of_mem _ hd)
        · exact le_rfl

/-- As long as no more is closed than is open, the level follows the balance. -/
theorem levelAfter_eq_balance (h : ∀ d ∈ deficits ops, d ≤ level) :
    (levelAfter level ops : Int) = level + balance ops := by
  have hgreatest : IsGreatest (insert (level : Int) (deficits ops)) level := by
    refine ⟨Set.mem_insert _ _, ?_⟩
    rintro d (rfl | hd)
    · exact le_rfl
    · exact h d hd
  have hraise := (isGreatest_levelAfter level ops).unique hgreatest
  omega

/-- A line that is not blank becomes one row, with a tab for each level that is open after the
braces at its start. -/
theorem written_line_eq (h : trimmed template ≠ "") : written level [.line template] =
    tabs (level - closers (trim template.toList)) ++ trimmed template ++ "\n" := by
  have hne : trim template.toList ≠ [] := by
    rwa [ne_eq, trim_eq_nil_iff, ← trimmed_eq_empty_iff]
  rw [written_line hne, indented, String.ofList_append, String.ofList_append]
  rfl

theorem head?_trimmed_ne (template : String) : (trimmed template).toList.head? ≠ some '\t' := by
  rw [trimmed, String.toList_ofList]
  intro htab
  exact absurd (not_isBlank_of_head?_trim htab) (by decide)

theorem written_eq_empty_or (level : Nat) (ops : List Op) :
    written level ops = "" ∨ ∃ text, written level ops = text ++ "\n" := by
  rw [written_eq_ofRows, ofRows]
  obtain hnil | ⟨rows, row, hrows⟩ := List.eq_nil_or_concat (printed level ops)
  · rw [hnil]
    exact .inl rfl
  · rw [hrows, List.concat_eq_append, List.map_append, String.join_append, List.map_singleton,
      String.join_cons, String.join_nil, String.append_empty, ← String.append_assoc]
    exact .inr ⟨_, rfl⟩

/-- From an empty emitter on, the text only grows and each row in it is ended; a line that is not
blank has as many tabs as levels are open after the braces at its start; and the level is the
balance, raised by the largest deficit so far. So it is the balance itself as long as no more is
closed than is open, and then a balanced block leaves the level as it was. -/
theorem run_follows_balance (ops : List Op)
    (hflat : ∀ template, Op.line template ∈ ops → '\n' ∉ template.toList) :
    (∀ before, before <+: ops → ∃ more, (run {} ops).text = (run {} before).text ++ more) ∧
    ((run {} ops).text = "" ∨ ∃ text, (run {} ops).text = text ++ "\n") ∧
    (∀ before template, before ++ [.line template] <+: ops → trimmed template ≠ "" →
      ∃ row, (run {} (before ++ [.line template])).text = (run {} before).text ++ row ++ "\n" ∧
        row = tabs ((run {} before).level - closers (trim template.toList)) ++ trimmed template ∧
        '\n' ∉ row.toList ∧ (trimmed template).toList.head? ≠ some '\t') ∧
    IsGreatest (insert 0 (deficits ops)) ((run {} ops).level - balance ops) ∧
    ((∀ d ∈ deficits ops, d ≤ 0) → (run {} ops).level = balance ops) ∧
    ∀ before block, before ++ block <+: ops → balance block = 0 →
      (∀ d ∈ deficits block, d ≤ (run {} before).level) →
        (run {} (before ++ block)).level = (run {} before).level := by
  refine ⟨?_, written_eq_empty_or 0 ops, ?_, isGreatest_levelAfter 0 ops, fun h => ?_, ?_⟩
  · rintro before ⟨after, rfl⟩
    exact ⟨_, written_append after⟩
  · intro before template hbegin hne
    have hline : '\n' ∉ template.toList := hflat template (hbegin.subset (by simp))
    refine ⟨_, ?_, rfl, ?_, head?_trimmed_ne template⟩
    · change written 0 (before ++ [.line template]) = written 0 before ++ _ ++ _
      rw [written_append, written_line_eq hne, ← String.append_assoc]
      rfl
    · rw [String.toList_append, List.mem_append, not_or, tabs, trimmed, String.toList_ofList,
        String.toList_ofList]
      exact ⟨by simp, fun hmem => hline (mem_of_mem_trim hmem)⟩
  · exact (levelAfter_eq_balance h).trans (Int.zero_add _)
  · intro before block _ hbalance hdeficits
    have hlevel := levelAfter_eq_balance hdeficits
    rw [hbalance, Int.add_zero, Int.ofNat_inj] at hlevel
    exact (levelAfter_append block).trans hlevel

/-- The first line closes two levels of none, and the last one another: three levels are lost. -/
def overclosed : List Op :=
  [.line "\x7d\x7d", .line "if ok \x7b", .comment "a remark", .line "  return  ", .leave,
    .line "\x7d else \x7b"]

theorem run_follows_balance_overclosed :
    (∀ template, Op.line template ∈ overclosed → '\n' ∉ template.toList) ∧
      run {} overclosed = ⟨"\x7d\x7d\nif ok \x7b\n\t// a remark\n\treturn\n\x7d else \x7b\n", 1⟩ ∧
      balance overclosed = -2 ∧ IsGreatest (insert 0 (deficits overclosed)) 3 := by
  have hflat : ∀ template, Op.line template ∈ overclosed → '\n' ∉ template.toList := by
    intro template hmem
    simp only [overclosed, List.mem_cons, Op.line.injEq, reduceCtorEq, List.not_mem_nil, or_false,
      false_or] at hmem
    obtain rfl | rfl | rfl | rfl := hmem <;> decide
  have hraise : ((run {} overclosed).level : Int) - balance overclosed = 3 := by decide
  obtain ⟨_, _, _, hgreatest, _⟩ := run_follows_balance overclosed hflat
  rw [hraise] at hgreatest
  exact ⟨hflat, by decide, by decide, hgreatest⟩

end ClientGen.Emitter
