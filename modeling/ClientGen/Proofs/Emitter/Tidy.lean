import ClientGen.Proofs.Emitter.Rows
import ClientGen.Proofs.Text.Names
import ClientGen.Proofs.Text.Quoted

namespace ClientGen.Emitter

open Text

def Op.after? (level : Nat) : Op → Option Nat
  | .line template =>
    let text := trim template.toList
    if closers text ≤ level then some (level - closers text + openers text) else none
  | .blank | .comment _ => some level
  | .enter => some (level + 1)
  | .leave => if 0 < level then some (level - 1) else none

/-- The level after operations of which none closes a level that is not open. -/
def levelAfter? (level : Nat) : List Op → Option Nat
  | [] => some level
  | op :: ops => (op.after? level).bind fun level => levelAfter? level ops

def deeper : List Char → List Char
  | [] => []
  | row => '\t' :: row

variable {level next : Nat} {op : Op} {ops more : List Op} {a b text : String} {l row : List Char}

theorem levelAfter_of_after? (h : op.after? level = some next) : levelAfter level [op] = next := by
  cases op with
  | line template =>
    rw [Op.after?, Option.ite_none_right_eq_some, Option.some_inj] at h
    rw [levelAfter_line, h.2]
  | comment text =>
    cases h
    exact levelAfter_comment text
  | blank | enter =>
    cases h
    rfl
  | leave =>
    rw [Op.after?, Option.ite_none_right_eq_some, Option.some_inj] at h
    exact h.2

theorem levelAfter?_append :
    levelAfter? level (ops ++ more) = (levelAfter? level ops).bind (levelAfter? · more) := by
  induction ops generalizing level with
  | nil => rfl
  | cons op ops ih =>
    rw [List.cons_append, levelAfter?, levelAfter?, Option.bind_assoc]
    exact congrArg _ (funext fun _ => ih)

theorem levelAfter_of_levelAfter? (h : levelAfter? level ops = some next) :
    levelAfter level ops = next := by
  induction ops generalizing level with
  | nil => exact Option.some_inj.mp h
  | cons op ops ih =>
    obtain ⟨middle, hop, hops⟩ := Option.bind_eq_some_iff.mp h
    rw [levelAfter_cons, levelAfter_of_after? hop, ih hops]

theorem after?_succ (h : op.after? level = some next) : op.after? (level + 1) = some (next + 1) := by
  cases op with
  | line template =>
    rw [Op.after?, Option.ite_none_right_eq_some, Option.some_inj] at h
    rw [Op.after?, if_pos (by omega), ← h.2]
    congr 1
    omega
  | blank | comment | enter =>
    cases h
    rfl
  | leave =>
    rw [Op.after?, Option.ite_none_right_eq_some, Option.some_inj] at h
    rw [Op.after?, if_pos (by omega), ← h.2]
    congr 1
    omega

theorem levelAfter?_succ (h : levelAfter? level ops = some next) :
    levelAfter? (level + 1) ops = some (next + 1) := by
  induction ops generalizing level with
  | nil => exact congrArg (·.map Nat.succ) h
  | cons op ops ih =>
    obtain ⟨middle, hop, hops⟩ := Option.bind_eq_some_iff.mp h
    exact Option.bind_eq_some_iff.mpr ⟨middle + 1, after?_succ hop, ih hops⟩

theorem op_rows_succ (h : op.after? level = some next) :
    op.rows (level + 1) = (op.rows level).map deeper := by
  cases op with
  | line template =>
    rw [Op.after?, Option.ite_none_right_eq_some] at h
    unfold Op.rows
    dsimp only
    -- an empty line gets no tab at any level
    split
    · rfl
    · rename_i hne
      have hrow : level + 1 - closers (trim template.toList) =
          level - closers (trim template.toList) + 1 := by omega
      rw [hrow, List.replicate_succ, List.map_singleton, deeper]
      · rfl
      · simpa using fun _ => hne
  | blank | enter | leave => rfl
  | comment text =>
    unfold Op.rows
    rw [List.map_map]
    refine List.map_congr_left fun line _ => ?_
    obtain ⟨rest, hrest⟩ := commentLine_eq line
    rw [Function.comp_apply, deeper, List.replicate_succ, List.cons_append]
    simp [hrest]

/-- One level deeper, all that is written is one tab further to the right. -/
theorem rows_succ (h : levelAfter? level ops = some next) :
    rows (level + 1) ops = (rows level ops).map deeper := by
  induction ops generalizing level with
  | nil => rfl
  | cons op ops ih =>
    obtain ⟨middle, hop, hops⟩ := Option.bind_eq_some_iff.mp h
    rw [rows, rows, List.map_append, op_rows_succ hop, levelAfter_of_after? hop,
      levelAfter_of_after? (after?_succ hop), ih hops]

/-- A text that a line writes as it is, on one line, and that closes and opens so many levels. -/
structure IsLine (closes opens : Nat) (text : String) : Prop where
  ne_nil : text.toList ≠ []
  trim_eq : trim text.toList = text.toList
  closers_eq : closers text.toList = closes
  openers_eq : openers text.toList = opens
  flat : '\n' ∉ text.toList

instance (closes opens : Nat) (text : String) : Decidable (IsLine closes opens text) :=
  decidable_of_iff (text.toList ≠ [] ∧ trim text.toList = text.toList ∧ closers text.toList = closes ∧
      openers text.toList = opens ∧ '\n' ∉ text.toList)
    ⟨fun ⟨hne, ht, hc, ho, hf⟩ => ⟨hne, ht, hc, ho, hf⟩, fun ⟨hne, ht, hc, ho, hf⟩ =>
      ⟨hne, ht, hc, ho, hf⟩⟩

structure Front (a : String) (c : Option Char) : Prop where
  starts : starts a
  head_eq : a.toList.head? = c
  flat : '\n' ∉ a.toList

def isFront (l : List Char) : Bool :=
  (l.head?.any fun c => !isBlank c && c != '\x7d') && !l.contains '\n'

def isBack (l : List Char) : Bool :=
  l.reverse.head?.any (fun c => !isBlank c && c != '\x7b') && !l.contains '\n'

def isHead (l : List Char) : Bool :=
  l.reverse.head?.any (· != '\x7b') && !l.contains '\n'

namespace Front

variable {c : Option Char}

theorem ofList (h : isFront l) : Front (.ofList l) l.head? := by
  rw [isFront, Bool.and_eq_true] at h
  exact ⟨starts_ofList h.1, by rw [String.toList_ofList], by simpa using h.2⟩

theorem ofQuoted (text : String) : Front (quoted text) (some '"') := by
  refine ⟨?_, ?_, newline_notMem_quoted text⟩
  · unfold Emitter.starts
    rw [toList_quoted]
    rfl
  · rw [toList_quoted]
    rfl

theorem ofName (h : IsName a) : Front a a.toList.head? := ⟨h.starts, rfl, h.newline_notMem⟩

theorem append (h : Front a c) (hb : '\n' ∉ b.toList) : Front (a ++ b) c := by
  refine ⟨starts_append h.starts b, ?_, ?_⟩
  · obtain ⟨d, ds, hd, _⟩ := exists_of_starts h.starts
    rw [← h.head_eq, String.toList_append, hd]
    rfl
  · rw [String.toList_append, List.mem_append, not_or]
    exact ⟨h.flat, hb⟩

theorem literal (h : Front a c) (hl : !l.contains '\n') : Front (a ++ .ofList l) c :=
  h.append (by simpa using hl)

theorem name (h : Front a c) (hb : IsName b) : Front (a ++ b) c := h.append hb.newline_notMem

theorem isLine (h : Front a c) (he : ends a) : IsLine 0 0 a := by
  have htrim : trim a.toList = a.toList := (trim_of_starts h.starts).trans (trimEnd_of_ends he)
  refine ⟨?_, htrim, ?_, openers_of_ends he, h.flat⟩
  · obtain ⟨c, cs, hc, _⟩ := exists_of_starts h.starts
    simp [hc]
  · rw [← htrim]
    exact closers_of_starts h.starts

/-- A line that ends in a literal. -/
theorem line (h : Front a c) (hl : isBack l) : IsLine 0 0 (a ++ .ofList l) := by
  rw [isBack, Bool.and_eq_true] at hl
  exact (h.literal hl.2).isLine (ends_append (ends_ofList hl.1) a)

/-- A line that ends in a name or the like. -/
theorem last (h : Front a c) (hb : '\n' ∉ b.toList) (he : ends b) : IsLine 0 0 (a ++ b) :=
  (h.append hb).isLine (ends_append he a)

theorem ends_quoted (text : String) : ends (quoted text) := by
  rw [ends, toList_quoted, ← List.cons_append, List.reverse_append]
  rfl

theorem openLine (h : Front a c) (ho : openers a.toList = 0) : IsLine 0 1 (a ++ "\x7b") := by
  have hfront := h.literal (l := ['\x7b']) (by decide)
  have htrim : trim (a ++ "\x7b").toList = (a ++ "\x7b").toList :=
    (trim_of_starts hfront.starts).trans (trimEnd_brace a)
  refine ⟨by simp, htrim, ?_, ?_, hfront.flat⟩
  · rw [← htrim]
    exact closers_of_starts hfront.starts
  · rw [← trimEnd_brace]
    exact openers_trimEnd_brace ho

/-- A line whose text before the brace ends in a literal. -/
theorem head (h : Front a c) (hl : isHead l) : IsLine 0 1 ((a ++ .ofList l) ++ "\x7b") := by
  rw [isHead, Bool.and_eq_true] at hl
  refine (h.literal hl.2).openLine ?_
  cases hr : l.reverse with
  | nil =>
    rw [hr] at hl
    cases hl.1
  | cons c cs =>
    rw [hr] at hl
    have hc : (c == '\x7b') = false := by simpa using hl.1
    rw [openers, String.toList_append, String.toList_ofList, List.reverse_append, hr,
      List.cons_append, List.takeWhile_cons_of_neg (by simp [hc])]
    rfl

end Front

theorem IsLine.ofList (h : isFront l && isBack l) : IsLine 0 0 (.ofList l) := by
  rw [isBack, Bool.and_eq_true, Bool.and_eq_true] at h
  exact (Front.ofList h.1).isLine (ends_ofList h.2.1)

theorem IsLine.brace (h : isFront l && openers l == 0) : IsLine 0 1 (.ofList l ++ "\x7b") := by
  rw [Bool.and_eq_true, beq_iff_eq] at h
  exact (Front.ofList h.1).openLine (openers_ofList h.2)

variable {closes opens : Nat}

theorem after?_line (h : IsLine closes opens text) :
    Op.after? level (.line text) = if closes ≤ level then some (level - closes + opens)
      else none := by
  rw [Op.after?, h.trim_eq, h.closers_eq, h.openers_eq]

theorem rows_line (h : IsLine closes opens text) :
    Op.rows level (.line text) = [List.replicate (level - closes) '\t' ++ text.toList] := by
  unfold Op.rows
  dsimp only
  rw [h.trim_eq, h.closers_eq, if_neg (by simpa using h.ne_nil)]

theorem written_line_of_isLine (h : IsLine closes opens text) :
    written 0 [.line text] = text ++ "\n" := by
  have hne : trim text.toList ≠ [] := by
    rw [h.trim_eq]
    exact h.ne_nil
  rw [written_line hne, h.trim_eq, Nat.zero_sub, indented, List.replicate_zero, List.nil_append,
    String.ofList_append, String.ofList_toList]

theorem exists_written_block (h : IsLine 0 1 (a ++ "\x7b")) (parts : List Code) (tail : String) :
    ∃ below, written 0 (Code.block a parts tail) = a ++ "\x7b" ++ "\n" ++ below := by
  have hsplit : Code.block a parts tail =
      [.line (a ++ "\x7b")] ++ (parts.flatten ++ [.line ("\x7d" ++ tail)]) := rfl
  rw [hsplit, written_append, written_line_of_isLine h]
  exact ⟨_, rfl⟩

/-- Code that ends at its level, closes no levels but those that it opens, and breaks no line. -/
structure Tidy (code : Code) : Prop where
  level_eq : levelAfter? 0 code = some 0
  flat : ∀ row ∈ rows 0 code, '\n' ∉ row

instance (code : Code) : Decidable (Tidy code) :=
  decidable_of_iff (levelAfter? 0 code = some 0 ∧ ∀ row ∈ rows 0 code, '\n' ∉ row)
    ⟨fun ⟨hl, hf⟩ => ⟨hl, hf⟩, fun ⟨hl, hf⟩ => ⟨hl, hf⟩⟩

namespace Tidy

variable {code part : Code} {parts : List Code} {texts : List String} {condition : Bool}
  {tail : String}

theorem rows_append (h : Tidy code) (more : Code) :
    rows 0 (code ++ more) = rows 0 code ++ rows 0 more := by
  rw [Emitter.rows_append, levelAfter_of_levelAfter? h.level_eq]

theorem nil : Tidy [] := ⟨rfl, by simp [rows]⟩

theorem append (h : Tidy code) (hm : Tidy more) : Tidy (code ++ more) := by
  refine ⟨?_, ?_⟩
  · rw [levelAfter?_append, h.level_eq]
    exact hm.level_eq
  · rw [h.rows_append]
    intro row hr
    exact (List.mem_append.mp hr).elim (h.flat row) (hm.flat row)

theorem cons (h : Tidy part) (hp : Tidy parts.flatten) : Tidy (part :: parts).flatten := by
  rw [List.flatten_cons]
  exact h.append hp

theorem single (h : Tidy part) : Tidy [part].flatten := by
  rw [List.flatten_singleton]
  exact h

theorem flatten (h : ∀ part ∈ parts, Tidy part) : Tidy parts.flatten := by
  induction parts with
  | nil => exact nil
  | cons part parts ih =>
    exact (h part List.mem_cons_self).cons (ih fun part hp => h part (List.mem_cons_of_mem _ hp))

theorem when (h : Tidy parts.flatten) : Tidy (Code.when condition parts) := by
  cases condition with
  | true => exact h
  | false => exact nil

theorem blank : Tidy Code.blank := ⟨rfl, by decide⟩

theorem comment (text : String) : Tidy (Code.comment text) := by
  refine ⟨rfl, fun row hr => ?_⟩
  have hrows : rows 0 (Code.comment text) = Op.rows 0 (.comment text) := List.append_nil _
  rw [hrows] at hr
  exact (exists_of_mem_rows_comment hr).1

theorem line (h : IsLine 0 0 text) : Tidy (Code.line text) := by
  refine ⟨?_, fun row hr => ?_⟩
  · rw [Code.line, levelAfter?, after?_line h]
    rfl
  · have hrows : rows 0 (Code.line text) = Op.rows 0 (.line text) := List.append_nil _
    rw [hrows, rows_line h, List.mem_singleton] at hr
    rw [hr]
    exact h.flat

theorem literal (h : isFront l && isBack l) : Tidy (Code.line (.ofList l)) := line (.ofList h)

theorem lines (h : ∀ text ∈ texts, IsLine 0 0 text) : Tidy (Code.lines texts) := by
  induction texts with
  | nil => exact nil
  | cons text texts ih =>
    have hfirst : Tidy (Code.line text) := line (h text List.mem_cons_self)
    exact hfirst.append (ih fun text ht => h text (List.mem_cons_of_mem _ ht))

theorem rows_block (ha : IsLine 0 1 (a ++ "\x7b")) (h : Tidy parts.flatten)
    (ht : IsLine 1 0 ("\x7d" ++ tail)) : rows 0 (Code.block a parts tail) =
      (a ++ "\x7b").toList :: ((rows 0 parts.flatten).map deeper ++ [("\x7d" ++ tail).toList]) := by
  have hhead : levelAfter 0 [.line (a ++ "\x7b")] = 1 := by
    refine levelAfter_of_after? ?_
    rw [after?_line ha]
    rfl
  have hinner : levelAfter 1 parts.flatten = 1 :=
    levelAfter_of_levelAfter? (levelAfter?_succ h.level_eq)
  rw [Code.block, rows, hhead, Emitter.rows_append, hinner, rows_succ h.level_eq, rows_line ha, rows,
    rows_line ht]
  rfl

theorem notMem_deeper (h : '\n' ∉ row) : '\n' ∉ deeper row := by
  cases row <;> simp_all [deeper]

theorem block_tail (ha : IsLine 0 1 (a ++ "\x7b")) (h : Tidy parts.flatten)
    (ht : IsLine 1 0 ("\x7d" ++ tail)) : Tidy (Code.block a parts tail) := by
  refine ⟨?_, fun row hr => ?_⟩
  · have htail : levelAfter? 1 [.line ("\x7d" ++ tail)] = some 0 := by
      rw [levelAfter?, after?_line ht]
      rfl
    rw [Code.block, levelAfter?, after?_line ha, if_pos (Nat.zero_le _), Option.bind_some,
      levelAfter?_append, levelAfter?_succ h.level_eq, Option.bind_some, htail]
  · rw [rows_block ha h ht, List.mem_cons, List.mem_append, List.mem_map, List.mem_singleton] at hr
    obtain rfl | ⟨row, hr, rfl⟩ | rfl := hr
    · exact ha.flat
    · exact notMem_deeper (h.flat row hr)
    · exact ht.flat

theorem block (ha : IsLine 0 1 (a ++ "\x7b")) (h : Tidy parts.flatten) : Tidy (Code.block a parts) :=
  block_tail ha h (by decide)

end Tidy

end ClientGen.Emitter
