import ClientGen.Code

namespace ClientGen.Emitter

open Text

def written (level : Nat) (ops : List Op) : String :=
  (({ level } : Emitter).run ops).text

def levelAfter (level : Nat) (ops : List Op) : Nat :=
  (({ level } : Emitter).run ops).level

def prepend (text : String) (em : Emitter) : Emitter :=
  { em with text := text ++ em.text }

variable {text : String} {em : Emitter} {level : Nat} {ops : List Op}

theorem push_prepend (more : String) : (em.prepend text).push more = (em.push more).prepend text := by
  simp [push, prepend, String.append_assoc]

theorem writeIndented_prepend (line : List Char) :
    (em.prepend text).writeIndented line = (em.writeIndented line).prepend text :=
  push_prepend _

theorem line_prepend (template : String) :
    (em.prepend text).line template = (em.line template).prepend text := by
  unfold line
  dsimp only
  split
  · exact push_prepend _
  · simp [writeIndented, push, prepend, String.append_assoc]

theorem comment_prepend (content : String) :
    (em.prepend text).comment content = (em.comment content).prepend text := by
  unfold comment
  generalize lines (trimEnd content.toList) = all
  induction all generalizing em with
  | nil => rfl
  | cons line all ih => rw [List.foldl_cons, List.foldl_cons, writeIndented_prepend, ih]

/-- What was written before has no effect on what is written. -/
theorem run_prepend : (em.prepend text).run ops = (em.run ops).prepend text := by
  induction ops generalizing em with
  | nil => rfl
  | cons op ops ih =>
    have hop : (em.prepend text).apply op = (em.apply op).prepend text := by
      cases op with
      | line template => exact line_prepend template
      | blank => exact push_prepend _
      | comment content => exact comment_prepend content
      | enter | leave => rfl
    change ((em.prepend text).apply op).run ops = ((em.apply op).run ops).prepend text
    rw [hop, ih]

theorem run_eq : em.run ops =
    { text := em.text ++ written em.level ops, level := levelAfter em.level ops } := by
  have h : em = prepend em.text { level := em.level } := by simp [prepend]
  rw [h, run_prepend]
  simp [prepend, written, levelAfter]

theorem written_append (more : List Op) :
    written level (ops ++ more) = written level ops ++ written (levelAfter level ops) more := by
  rw [written, run_append, run_eq]
  rfl

theorem levelAfter_append (more : List Op) :
    levelAfter level (ops ++ more) = levelAfter (levelAfter level ops) more := by
  rw [levelAfter, run_append, run_eq]
  rfl

theorem written_cons (op : Op) (ops : List Op) :
    written level (op :: ops) = written level [op] ++ written (levelAfter level [op]) ops :=
  @written_append level [op] ops

theorem levelAfter_cons (op : Op) (ops : List Op) :
    levelAfter level (op :: ops) = levelAfter (levelAfter level [op]) ops :=
  @levelAfter_append level [op] ops

theorem render_eq (ops : List Op) : render ops = written 0 ops := rfl

theorem written_line {template : String} (h : trim template.toList ≠ []) :
    written level [.line template] =
      .ofList (indented (level - closers (trim template.toList)) (trim template.toList)) := by
  change (line { level } template).text = _
  unfold line
  dsimp only
  rw [if_neg (by simpa using h)]
  simp [writeIndented, push]

theorem levelAfter_line (template : String) : levelAfter level [.line template] =
    level - closers (trim template.toList) + openers (trim template.toList) := by
  change (line { level } template).level = _
  unfold line
  dsimp only
  split
  · rename_i h
    rw [List.isEmpty_iff.mp h]
    rfl
  · rfl

theorem levelAfter_comment (text : String) : levelAfter level [.comment text] = level := by
  change (comment { level } text).level = level
  unfold comment
  generalize lines (trimEnd text.toList) = all
  have hfold : ∀ em : Emitter,
      (all.foldl (fun em line => em.writeIndented (commentLine line)) em).level = em.level := by
    induction all with
    | nil => exact fun _ => rfl
    | cons line all ih => exact fun em => ih (em.writeIndented (commentLine line))
  exact hfold { level }

/-- What stands before a text opens no levels, if the text is apart from it. -/
theorem openers_trimEnd_append {before text : List Char} (hb : openers before = 0)
    (ht : openers (trimEnd before) = 0) :
    openers (trimEnd (before ++ text)) = openers (trimEnd text) := by
  simp only [openers, trimEnd, List.reverse_reverse, List.length_eq_zero_iff] at *
  rw [List.reverse_append, List.dropWhile_append]
  split
  · rename_i h
    rw [ht, List.isEmpty_iff.mp h]
    rfl
  · rw [List.takeWhile_append]
    split
    · rename_i h
      rw [hb, List.append_nil, (List.takeWhile_prefix _).eq_of_length h]
    · rfl

/-- Whether a text begins with a character that no line drops and that closes no level. -/
def starts (text : String) : Bool :=
  text.toList.head?.any fun c => !isBlank c && c != '\x7d'

def ends (text : String) : Bool :=
  text.toList.reverse.head?.any fun c => !isBlank c && c != '\x7b'

-- A literal unfolds to the list of its characters, which is faster than to decode it.
theorem starts_ofList {l : List Char} (h : l.head?.any fun c => !isBlank c && c != '\x7d') :
    starts (.ofList l) := by
  rw [starts, String.toList_ofList]
  exact h

theorem ends_ofList {l : List Char} (h : l.reverse.head?.any fun c => !isBlank c && c != '\x7b') :
    ends (.ofList l) := by
  rw [ends, String.toList_ofList]
  exact h

theorem openers_ofList {l : List Char} (h : openers l = 0) :
    openers (String.ofList l).toList = 0 := by
  rw [String.toList_ofList]
  exact h

variable {a : String}

theorem exists_of_starts (h : starts a) :
    ∃ c cs, a.toList = c :: cs ∧ isBlank c = false ∧ c ≠ '\x7d' := by
  unfold starts at h
  cases hc : a.toList with
  | nil =>
    rw [hc] at h
    cases h
  | cons c cs =>
    rw [hc] at h
    exact ⟨c, cs, rfl, by simpa using h⟩

theorem exists_of_ends (h : ends a) :
    ∃ c cs, a.toList.reverse = c :: cs ∧ isBlank c = false ∧ c ≠ '\x7b' := by
  unfold ends at h
  cases hc : a.toList.reverse with
  | nil =>
    rw [hc] at h
    cases h
  | cons c cs =>
    rw [hc] at h
    exact ⟨c, cs, rfl, by simpa using h⟩

theorem starts_append (h : starts a) (b : String) : starts (a ++ b) := by
  obtain ⟨c, cs, hc, hb, hn⟩ := exists_of_starts h
  rw [starts, String.toList_append, hc]
  simp [hb, hn]

theorem ends_append (h : ends a) (b : String) : ends (b ++ a) := by
  obtain ⟨c, cs, hc, hb, hn⟩ := exists_of_ends h
  rw [ends, String.toList_append, List.reverse_append, hc]
  simp [hb, hn]

theorem trim_of_starts (h : starts a) : trim a.toList = trimEnd a.toList := by
  obtain ⟨c, cs, hc, hb, _⟩ := exists_of_starts h
  rw [trim, trimStart, hc, List.dropWhile_cons_of_neg (by simp [hb])]

theorem closers_of_starts (h : starts a) : closers (trim a.toList) = 0 := by
  rw [trim_of_starts h]
  obtain ⟨c, cs, hc, hb, hn⟩ := exists_of_starts h
  have hend : ∃ rest, trimEnd (c :: cs) = c :: rest := by
    rw [trimEnd, List.reverse_cons, List.dropWhile_append]
    split
    · rw [List.dropWhile_cons_of_neg (by simp [hb])]
      exact ⟨[], rfl⟩
    · rw [List.reverse_append]
      exact ⟨_, rfl⟩
  obtain ⟨rest, hrest⟩ := hend
  rw [hc, hrest, closers, List.takeWhile_cons_of_neg (by simpa using hn)]
  rfl

theorem trimEnd_of_ends (h : ends a) : trimEnd a.toList = a.toList := by
  obtain ⟨c, cs, hc, hb, _⟩ := exists_of_ends h
  rw [trimEnd, hc, List.dropWhile_cons_of_neg (by simp [hb]), ← hc, List.reverse_reverse]

theorem openers_of_ends (h : ends a) : openers a.toList = 0 := by
  obtain ⟨c, cs, hc, _, hn⟩ := exists_of_ends h
  rw [openers, hc, List.takeWhile_cons_of_neg (by simpa using hn)]
  rfl

theorem trimEnd_brace (a : String) : trimEnd (a ++ "\x7b").toList = (a ++ "\x7b").toList := by
  rw [String.toList_append, trimEnd, List.reverse_append]
  change (List.dropWhile isBlank ('\x7b' :: a.toList.reverse)).reverse = _
  rw [List.dropWhile_cons_of_neg (by decide), List.reverse_cons, List.reverse_reverse]
  rfl

theorem openers_trimEnd_brace (h : openers a.toList = 0) :
    openers (trimEnd (a ++ "\x7b").toList) = 1 := by
  simp only [openers, List.length_eq_zero_iff] at h
  rw [String.toList_append, openers, trimEnd, List.reverse_reverse, List.reverse_append]
  change (List.takeWhile _ (List.dropWhile isBlank ('\x7b' :: a.toList.reverse))).length = 1
  rw [List.dropWhile_cons_of_neg (by decide), List.takeWhile_cons_of_pos (by decide), h]
  rfl

theorem openers_append (h : openers a.toList = 0) (ha : a ≠ "") (b : String) :
    openers (b ++ a).toList = 0 := by
  simp only [openers, List.length_eq_zero_iff] at *
  rw [String.toList_append, List.reverse_append, List.takeWhile_append, h, if_neg]
  rw [List.length_reverse, List.length_nil, eq_comm, List.length_eq_zero_iff,
    String.toList_eq_nil_iff]
  exact ha

def Rises (k : Nat) (ops : List Op) : Prop :=
  ∀ level, levelAfter level ops = level + k

namespace Rises

variable {k l : Nat} {more : List Op} {parts : List Code}

theorem nil : Rises 0 [] := fun _ => rfl

theorem blank : Rises 0 [.blank] := fun _ => rfl

theorem append (h : Rises k ops) (hm : Rises l more) : Rises (k + l) (ops ++ more) := by
  intro level
  rw [levelAfter_append, h, hm]
  omega

theorem of_eq (h : Rises k ops) (he : k = l) : Rises l ops := he ▸ h

theorem cons {part : Code} (h : Rises k part) (hp : Rises l parts.flatten) :
    Rises (k + l) (part :: parts).flatten := by
  rw [List.flatten_cons]
  exact h.append hp

theorem single {part : Code} (h : Rises k part) : Rises k [part].flatten := by
  rw [List.flatten_singleton]
  exact h

theorem flatten (h : ∀ part ∈ parts, Rises 0 part) : Rises 0 parts.flatten := by
  induction parts with
  | nil => exact nil
  | cons part parts ih => exact (h part (by simp)).cons (ih fun part hp => h part (by simp [hp]))

theorem line (h : starts a) : Rises (openers (trimEnd a.toList)) (Code.line a) := by
  intro level
  rw [Code.line, levelAfter_line, closers_of_starts h, trim_of_starts h]
  rfl

/-- A line that does not end in a brace stays at its level. -/
theorem plain (h : starts a) (he : ends a) : Rises 0 (Code.line a) := by
  refine (line h).of_eq ?_
  rw [trimEnd_of_ends he, openers_of_ends he]

theorem literal {l : List Char} (hs : l.head?.any fun c => !isBlank c && c != '\x7d')
    (he : l.reverse.head?.any fun c => !isBlank c && c != '\x7b') : Rises 0 (Code.line (.ofList l)) :=
  plain (starts_ofList hs) (ends_ofList he)

theorem block (hs : starts a) (he : openers a.toList = 0) (h : Rises k parts.flatten) :
    Rises k (Code.block a parts) := by
  have hhead : Rises 1 [.line (a ++ "\x7b")] :=
    (line (starts_append hs _)).of_eq (openers_trimEnd_brace he)
  intro level
  have htail : levelAfter (level + 1 + k) [.line ("\x7d" ++ "")] = level + k := by
    rw [levelAfter_line]
    change level + 1 + k - 1 + 0 = level + k
    omega
  change levelAfter level ([.line (a ++ "\x7b")] ++ (parts.flatten ++ [.line ("\x7d" ++ "")])) = _
  rw [levelAfter_append, levelAfter_append, hhead, h, htail]

end Rises

end ClientGen.Emitter
