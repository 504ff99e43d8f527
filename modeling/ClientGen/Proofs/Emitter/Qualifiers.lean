import ClientGen.Proofs.Emitter.Printed

namespace ClientGen

open Text Emitter

namespace Code

/-- Where a character of a line stands: in code, in a string literal, or after a backslash there. -/
inductive Place
  | code
  | literal
  | escape
deriving DecidableEq

def Place.next : Place → Char → Place
  | .code, c => if c = '"' then .literal else .code
  | .literal, c => if c = '"' then .code else if c = '\\' then .escape else .literal
  | .escape, _ => .literal

def Place.after (place : Place) (text : List Char) : Place := text.foldl Place.next place

/-- What of a line stands outside of string literals. Of a literal only its first quote stays. -/
def outside : Place → List Char → List Char
  | _, [] => []
  | .code, c :: rest => c :: outside (Place.code.next c) rest
  | place, c :: rest => outside (place.next c) rest

def isChain (c : Char) : Bool := isOrdinary c || c == '.'

/-- The first of names with dots between them, if another follows. Three dots before it are those of
a variable number of arguments. A number with a point in it is no name. -/
def qualifier? : List (List Char) → Option String
  | [] :: [] :: [] :: name :: member :: _ | name :: member :: _ =>
    if name.any (!·.isDigit) && !member.isEmpty then some (.ofList name) else none
  | _ => none

def chains (text : List Char) : List String :=
  (text.splitOnP (!isChain ·)).filterMap fun chain => qualifier? (chain.splitOn '.')

def qualifiers (line : List Char) : List String := chains (outside .code line)

/-- The names that the lines of a text put before those of their members, where they are no
comments. -/
def qualifiersOf (text : String) : List String := (codeLines text.toList).flatMap qualifiers

variable {l front back rest w : List Char} {c : Char} {place : Place} {a b q : String}
  {own types names : List String}

theorem after_append (place : Place) (front back : List Char) :
    place.after (front ++ back) = (place.after front).after back :=
  List.foldl_append

theorem outside_append (place : Place) (front back : List Char) :
    outside place (front ++ back) = outside place front ++ outside (place.after front) back := by
  induction front generalizing place with
  | nil => rfl
  | cons c front ih => cases place <;> simp [outside, ih, Place.after]

theorem mem_of_mem_outside (h : c ∈ outside place l) : c ∈ l := by
  fun_induction outside place l <;> grind

theorem after_of_notMem (h : '"' ∉ l) : Place.code.after l = .code := by
  induction l with
  | nil => rfl
  | cons c l ih =>
    rw [List.mem_cons, not_or] at h
    rw [Place.after, List.foldl_cons, Place.next, if_neg (Ne.symm h.1)]
    exact ih h.2

theorem outside_of_notMem (h : '"' ∉ l) : outside .code l = l := by
  induction l with
  | nil => rfl
  | cons c l ih =>
    rw [List.mem_cons, not_or] at h
    rw [outside, Place.next, if_neg (Ne.symm h.1), ih h.2]

/-- A text in a literal that has no quote and no backslash in it. -/
theorem inner_of_notMem (hq : '"' ∉ l) (hb : '\\' ∉ l) :
    Place.literal.after l = .literal ∧ outside .literal l = [] := by
  induction l with
  | nil => exact ⟨rfl, rfl⟩
  | cons c l ih =>
    rw [List.mem_cons, not_or] at hq hb
    rw [Place.after, List.foldl_cons, outside, Place.next, if_neg (Ne.symm hq.1),
      if_neg (Ne.symm hb.1)]
    · exact ih hq.2 hb.2
    · simp

theorem inner_escape (c : Char) :
    Place.literal.after (Quoted.escape c) = .literal ∧ outside .literal (Quoted.escape c) = [] := by
  unfold Quoted.escape
  split_ifs with h0 ht hr hn hq hb hu
  case pos | pos | pos | pos | pos | pos => exact ⟨rfl, rfl⟩
  · have hdigits : '"' ∉ Nat.toDigits 16 c.toNat ∧ '\\' ∉ Nat.toDigits 16 c.toNat :=
      ⟨notMem_toDigits (by decide), notMem_toDigits (by decide)⟩
    -- after the backslash and the letter come digits between braces
    exact inner_of_notMem (l := '\x7b' :: (Nat.toDigits 16 c.toNat ++ ['\x7d'])) (by simp [hdigits])
      (by simp [hdigits])
  · exact inner_of_notMem (by simpa using Ne.symm hq) (by simpa using Ne.symm hb)

theorem inner_escapes (text : List Char) :
    Place.literal.after (text.flatMap Quoted.escape) = .literal ∧
    outside .literal (text.flatMap Quoted.escape) = [] := by
  induction text with
  | nil => exact ⟨rfl, rfl⟩
  | cons c text ih =>
    obtain ⟨hafter, houtside⟩ := inner_escape c
    rw [List.flatMap_cons, outside_append, after_append, hafter, houtside]
    exact ih

theorem after_quoted (text : String) : Place.code.after (quoted text).toList = .code := by
  rw [toList_quoted, ← List.cons_append, ← List.singleton_append, after_append, after_append]
  exact congrArg (Place.after · ['"']) (inner_escapes text.toList).1

theorem outside_quoted (text : String) : outside .code (quoted text).toList = ['"'] := by
  obtain ⟨hafter, houtside⟩ := inner_escapes text.toList
  have hnext : Place.code.next '"' = .literal := rfl
  rw [toList_quoted, outside, hnext, outside_append, hafter, houtside]
  rfl

theorem not_isChain_of_isBlank (h : isBlank c) : isChain c = false := by
  rw [isChain, Bool.or_eq_false_iff, Bool.eq_false_iff, beq_eq_false_iff_ne]
  constructor
  · intro hc
    rw [not_isBlank_of_isOrdinary hc] at h
    cases h
  · rintro rfl
    revert h
    decide

theorem ne_quote_of_isChain (h : isChain c) : c ≠ '"' := by
  rintro rfl
  revert h
  decide

theorem ne_dot_of_isOrdinary (h : isOrdinary c) : c ≠ '.' := by
  rintro rfl
  revert h
  decide

theorem isChain_of_isOrdinary (h : isOrdinary c) : isChain c := by
  rw [isChain, h]
  rfl

theorem chains_append_cons (front : List Char) (hc : isChain c = false) (back : List Char) :
    chains (front ++ c :: back) = chains front ++ chains back := by
  rw [chains, List.splitOnP_append_cons front back (by simp [hc]), List.filterMap_append]
  rfl

theorem chains_cons (hc : isChain c = false) (back : List Char) : chains (c :: back) = chains back :=
  chains_append_cons [] hc back

theorem chains_of_apart (h : ∀ c ∈ l, isChain c = false) : chains l = [] := by
  induction l with
  | nil => rfl
  | cons c l ih =>
    rw [chains_cons (h c List.mem_cons_self)]
    exact ih fun c hc => h c (List.mem_cons_of_mem _ hc)

theorem chains_append_of_apart (h : ∀ c ∈ back, isChain c = false) (front : List Char) :
    chains (front ++ back) = chains front := by
  cases back with
  | nil => rw [List.append_nil]
  | cons c back =>
    have hback := chains_of_apart h
    rw [chains_cons (h c List.mem_cons_self)] at hback
    rw [chains_append_cons front (h c List.mem_cons_self), hback, List.append_nil]

theorem chains_apart_append (h : ∀ c ∈ front, isChain c = false) (back : List Char) :
    chains (front ++ back) = chains back := by
  induction front with
  | nil => rfl
  | cons c front ih =>
    rw [List.cons_append, chains_cons (h c List.mem_cons_self)]
    exact ih fun c hc => h c (List.mem_cons_of_mem _ hc)

theorem chains_append (h : front.getLast?.any isChain = false) (back : List Char) :
    chains (front ++ back) = chains front ++ chains back := by
  cases hlast : front.getLast? with
  | none =>
    rw [List.getLast?_eq_none_iff.mp hlast]
    rfl
  | some c =>
    rw [hlast] at h
    obtain ⟨before, rfl⟩ := List.getLast?_eq_some_iff.mp hlast
    rw [List.append_assoc, List.singleton_append, chains_append_cons before h,
      chains_append_cons before h []]
    simp [chains_of_apart]

theorem quote_notMem_of_isOrdinary (h : ∀ c ∈ l, isOrdinary c) : '"' ∉ l :=
  fun hc => ne_quote_of_isChain (isChain_of_isOrdinary (h _ hc)) rfl

theorem quote_notMem_of_blank (h : IsBlankText l) : '"' ∉ l :=
  fun hc => absurd (h _ hc) (by decide)

theorem qualifiers_blank_append (h : IsBlankText front) (back : List Char) :
    qualifiers (front ++ back) = qualifiers back := by
  have hquote := quote_notMem_of_blank h
  rw [qualifiers, outside_append, outside_of_notMem hquote, after_of_notMem hquote,
    chains_apart_append fun c hc => not_isChain_of_isBlank (h c hc)]
  rfl

theorem qualifiers_append_blank (h : IsBlankText back) (front : List Char) :
    qualifiers (front ++ back) = qualifiers front := by
  rw [qualifiers, outside_append]
  exact chains_append_of_apart (fun c hc => not_isChain_of_isBlank (h c (mem_of_mem_outside hc))) _

theorem qualifiers_trim (l : List Char) : qualifiers (trim l) = qualifiers l := by
  obtain ⟨before, hbefore, hstart⟩ := exists_trimStart l
  obtain ⟨after, hafter, hend⟩ := exists_trimEnd (trimStart l)
  calc qualifiers (trim l)
    _ = qualifiers (trimStart l) := by
      rw [trim, ← qualifiers_append_blank hafter, ← hend]
    _ = qualifiers l := by
      rw [← qualifiers_blank_append hbefore, ← hstart]

theorem qualifiers_row (level : Nat) (l : List Char) :
    qualifiers (List.replicate level '\t' ++ trim l) = qualifiers l := by
  rw [qualifiers_blank_append (isBlankText_replicate (by decide) level), qualifiers_trim]

theorem qualifier?_append (pieces : List (List Char)) (piece : List Char)
    {v w : List Char} (hv : v ≠ [])
    (hw : w ≠ []) : qualifier? (pieces ++ [piece ++ v]) = qualifier? (pieces ++ [piece ++ w]) := by
  have hne {l : List Char} (h : l ≠ []) : (piece ++ l).isEmpty = false := by simp [h]
  match pieces with
  | [] => simp [qualifier?]
  | [first] => simp [qualifier?, hne hv, hne hw]
  | [first, second] => simp [qualifier?]
  | [first, second, third] => simp [qualifier?]
  | [first, second, third, fourth] =>
    cases first <;> cases second <;> cases third <;> simp [qualifier?, hne hv, hne hw]
  | first :: second :: third :: fourth :: fifth :: pieces =>
    cases first <;> cases second <;> cases third <;> simp [qualifier?]

/-- What a name does at the end of a text does not depend on the name. -/
theorem chains_append_name {v w : List Char} (hv : ∀ c ∈ v, isOrdinary c) (hw : ∀ c ∈ w, isOrdinary c)
    (hvne : v ≠ []) (hwne : w ≠ []) (front : List Char) :
    chains (front ++ v) = chains (front ++ w) := by
  obtain ⟨texts, text, htexts⟩ := exists_splitOnP_append (!isChain ·) front
  obtain ⟨pieces, piece, hpieces⟩ := exists_splitOnP_append (· == '.') text
  have hchain {l : List Char} (h : ∀ c ∈ l, isOrdinary c) : ∀ c ∈ l, (!isChain c) = false := by
    intro c hc
    simp [isChain_of_isOrdinary (h c hc)]
  have hdot {l : List Char} (h : ∀ c ∈ l, isOrdinary c) : ∀ c ∈ l, (c == '.') = false := by
    intro c hc
    simp [ne_dot_of_isOrdinary (h c hc)]
  have hlast : qualifier? ((text ++ v).splitOn '.') = qualifier? ((text ++ w).splitOn '.') := by
    rw [List.splitOn_eq_splitOnP, List.splitOn_eq_splitOnP, hpieces v (hdot hv), hpieces w (hdot hw)]
    exact qualifier?_append pieces piece hvne hwne
  rw [chains, chains, htexts v (hchain hv), htexts w (hchain hw), List.filterMap_append,
    List.filterMap_append, List.filterMap_cons, List.filterMap_cons, hlast]

theorem chains_of_dotless (h : '.' ∉ l) : chains l = [] := by
  rw [chains, List.filterMap_eq_nil_iff]
  intro piece hp
  have hsplit : piece.splitOn '.' = [piece] :=
    List.splitOnP_eq_singleton fun c hc => by
      rw [beq_eq_false_iff_ne]
      rintro rfl
      exact h (mem_and_of_mem_splitOnP hp hc).1
  rw [hsplit]
  simp [qualifier?]

theorem chains_of_isOrdinary (h : ∀ c ∈ l, isOrdinary c) : chains l = [] :=
  chains_of_dotless fun hc => ne_dot_of_isOrdinary (h _ hc) rfl

/-- Of names with dots between them, only the first can stand for a package. -/
theorem chains_member (hq : ∀ c ∈ q.toList, isOrdinary c) (hne : q ≠ "") (hw : ∀ c ∈ w, isChain c) :
    chains (q.toList ++ '.' :: w) ⊆ [q] := by
  have hchain : (q.toList ++ '.' :: w).splitOnP (!isChain ·) = [q.toList ++ '.' :: w] := by
    refine List.splitOnP_eq_singleton fun c hc => ?_
    rw [List.mem_append, List.mem_cons] at hc
    obtain hc | rfl | hc := hc
    · simp [isChain_of_isOrdinary (hq c hc)]
    · rfl
    · simp [hw c hc]
  have hfirst : q.toList.splitOn '.' = [q.toList] :=
    List.splitOnP_eq_singleton fun c hc => by simp [ne_dot_of_isOrdinary (hq c hc)]
  obtain ⟨c, cs, hc⟩ := List.exists_cons_of_ne_nil (mt String.toList_eq_nil_iff.mp hne)
  obtain ⟨piece, pieces, hpieces⟩ := List.exists_cons_of_ne_nil (List.splitOn_ne_nil '.' w)
  rw [chains, hchain, List.filterMap_cons, List.splitOn_append_cons_self, hfirst, hpieces,
    List.singleton_append, hc, qualifier?]
  · split
    · exact List.nil_subset _
    · rename_i name hname
      rw [Option.ite_none_right_eq_some, Option.some_inj] at hname
      rw [← hname.2, ← hc, String.ofList_toList]
      exact List.Subset.refl _
  · simp

theorem mem_chains (hq : ∀ c ∈ q.toList, isOrdinary c) (hletter : q.toList.any (!·.isDigit))
    (hc : isOrdinary c) (rest : List Char) : q ∈ chains (q.toList ++ '.' :: c :: rest) := by
  obtain ⟨d, ds, hd⟩ : ∃ d ds, q.toList = d :: ds := by
    cases hl : q.toList with
    | nil =>
      rw [hl] at hletter
      cases hletter
    | cons d ds => exact ⟨d, ds, rfl⟩
  have hchain : ∀ x ∈ q.toList ++ '.' :: c :: rest.takeWhile isChain, (!isChain x) = false := by
    intro x hx
    simp only [List.mem_append, List.mem_cons] at hx
    obtain hx | rfl | rfl | hx := hx
    · simp [isChain_of_isOrdinary (hq x hx)]
    · rfl
    · simp [isChain_of_isOrdinary hc]
    · simp [List.mem_takeWhile_imp hx]
  have hfirst : q.toList.splitOn '.' = [q.toList] :=
    List.splitOnP_eq_singleton fun x hx => by simp [ne_dot_of_isOrdinary (hq x hx)]
  have hmember : q ∈ chains (q.toList ++ '.' :: c :: rest.takeWhile isChain) := by
    obtain ⟨piece, pieces, hpieces⟩ :=
      List.exists_cons_of_ne_nil (List.splitOn_ne_nil '.' (rest.takeWhile isChain))
    rw [chains, List.splitOnP_eq_singleton hchain, List.filterMap_cons,
      List.splitOn_append_cons_self, hfirst,
      splitOn_cons, if_neg (ne_dot_of_isOrdinary hc), hpieces]
    have hsome : qualifier? ([q.toList] ++ (piece :: pieces).modifyHead (c :: ·)) = some q := by
      rw [hd] at hletter
      have hof : String.ofList (d :: ds) = q := by rw [← hd, String.ofList_toList]
      simp only [hd, List.singleton_append, List.modifyHead_cons, qualifier?, hletter, hof]
      rfl
    rw [hsome]
    exact List.mem_cons_self
  have hsplit : q.toList ++ '.' :: c :: rest =
      (q.toList ++ '.' :: c :: rest.takeWhile isChain) ++ rest.dropWhile isChain := by
    simp [List.takeWhile_append_dropWhile]
  rw [hsplit]
  cases hr : rest.dropWhile isChain with
  | nil =>
    rw [List.append_nil]
    exact hmember
  | cons x xs =>
    have hx : isChain x = false := by
      have hnot := List.head?_dropWhile_not isChain rest
      rw [hr] at hnot
      exact hnot
    rw [chains_append_cons _ hx]
    exact List.mem_append_left _ hmember

/-- A name before a member's is found outside of string literals. -/
theorem mem_qualifiers {before after : String} (hbefore : Place.code.after before.toList = .code)
    (hapart : (outside .code before.toList).getLast?.any isChain = false)
    (hq : ∀ c ∈ q.toList, isOrdinary c) (hletter : q.toList.any (!·.isDigit))
    (hafter : after.toList.head?.any isOrdinary) :
    q ∈ qualifiers (before ++ (q ++ "." ++ after)).toList := by
  obtain ⟨c, hhead, hc⟩ := (Option.any_eq_true _ _).mp hafter
  obtain ⟨rest, hrest⟩ := List.head?_eq_some_iff.mp hhead
  have hlist : (before ++ (q ++ "." ++ after)).toList =
      before.toList ++ ((q.toList ++ ['.', c]) ++ rest) := by
    simp [hrest]
  have hquote : '"' ∉ q.toList ++ ['.', c] := by
    rw [List.mem_append, not_or]
    refine ⟨quote_notMem_of_isOrdinary hq, ?_⟩
    simp [(ne_quote_of_isChain (isChain_of_isOrdinary hc)).symm]
  rw [qualifiers, hlist, outside_append, hbefore, chains_append hapart, outside_append,
    outside_of_notMem hquote, after_of_notMem hquote, List.append_assoc]
  exact List.mem_append_right _ (mem_chains hq hletter hc _)

end Code

end ClientGen
