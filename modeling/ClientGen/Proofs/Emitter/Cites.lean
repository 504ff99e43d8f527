import ClientGen.Proofs.Emitter.Qualifiers

namespace ClientGen

open Text Emitter

namespace Code

variable {front l w : List Char} {a b q : String} {own types names : List String}

/-- The front of a line that ends outside of string literals. All that it refers to is known, also
once a name follows. -/
structure Lead (names : List String) (a : String) : Prop where
  after_eq : Place.code.after a.toList = .code
  chains_subset : ∀ w, (∀ c ∈ w, isOrdinary c) → chains (outside .code a.toList ++ w) ⊆ names

/-- The front of a line at which a name may begin. -/
structure Gap (names : List String) (a : String) : Prop extends Lead names a where
  chains_append : ∀ rest, chains (outside .code a.toList ++ rest) =
    chains (outside .code a.toList) ++ chains rest

def isLead (names : List String) (l : List Char) : Bool :=
  Place.code.after l == .code && (chains (outside .code l)).all names.contains &&
    (chains (outside .code l ++ ['_'])).all names.contains

def isRest (names : List String) (l : List Char) : Bool :=
  isLead names (l.dropWhile isOrdinary) && !(l.dropWhile isOrdinary).head?.any isChain

def isGap (l : List Char) : Bool := (outside .code l).getLast?.any (!isChain ·)

theorem chains_subset_of_isLead (h : isLead own l) (hw : ∀ c ∈ w, isOrdinary c) :
    chains (outside .code l ++ w) ⊆ own := by
  simp only [isLead, Bool.and_eq_true, beq_iff_eq, List.all_eq_true, List.contains_iff_mem] at h
  obtain ⟨⟨_, hnone⟩, hone⟩ := h
  cases hl : w with
  | nil =>
    rw [List.append_nil]
    exact hnone
  | cons c cs =>
    have hname : ['_'].all isOrdinary := by decide
    rw [← hl, chains_append_name hw (List.all_eq_true.mp hname) (by simp [hl]) (by simp)]
    exact hone

theorem chains_subset_of_isRest (h : isRest own l)
    (ha : ∀ w, (∀ c ∈ w, isOrdinary c) → chains (front ++ w) ⊆ names)
    (hown : own ⊆ names) (hw : ∀ c ∈ w, isOrdinary c) :
    chains (front ++ outside .code l ++ w) ⊆ names := by
  rw [isRest, Bool.and_eq_true] at h
  obtain ⟨hlead, hhead⟩ := h
  have hsplit : l = l.takeWhile isOrdinary ++ l.dropWhile isOrdinary :=
    List.takeWhile_append_dropWhile.symm
  have hname : ∀ c ∈ l.takeWhile isOrdinary, isOrdinary c := fun c hc => List.mem_takeWhile_imp hc
  have hquote := quote_notMem_of_isOrdinary hname
  rw [hsplit, outside_append, outside_of_notMem hquote, after_of_notMem hquote]
  have hrest := chains_subset_of_isLead hlead hw
  revert hhead hrest
  cases l.dropWhile isOrdinary with
  | nil =>
    intro _ _
    rw [outside, List.append_nil, List.append_assoc]
    refine ha _ fun c hc => ?_
    exact (List.mem_append.mp hc).elim (hname c) (hw c)
  | cons c rest =>
    intro hhead hrest
    have hc : isChain c = false := by simpa using hhead
    rw [outside, List.cons_append, chains_cons hc] at hrest
    rw [outside, List.append_assoc, List.append_assoc, List.cons_append, ← List.append_assoc,
      chains_append_cons _ hc]
    exact List.append_subset.mpr ⟨ha _ hname, List.Subset.trans hrest hown⟩

theorem Lead.mono (h : Lead own a) (hn : own ⊆ names) : Lead names a :=
  ⟨h.after_eq, fun w hw => List.Subset.trans (h.chains_subset w hw) hn⟩

theorem Lead.qualifiers_subset (h : Lead names a) : qualifiers a.toList ⊆ names := by
  have hnone := h.chains_subset [] (by simp)
  rwa [List.append_nil] at hnone

theorem Lead.ofList (h : isLead own l) : Lead (own ++ types) (.ofList l) := by
  refine ⟨?_, fun w hw => ?_⟩
  · rw [String.toList_ofList]
    simp only [isLead, Bool.and_eq_true, beq_iff_eq] at h
    exact h.1.1
  · rw [String.toList_ofList]
    exact List.Subset.trans (chains_subset_of_isLead h hw) (List.subset_append_left _ _)

theorem Lead.name (h : Lead names a) (hb : ∀ c ∈ b.toList, isOrdinary c) : Lead names (a ++ b) := by
  have hquote := quote_notMem_of_isOrdinary hb
  refine ⟨?_, fun w hw => ?_⟩
  · rw [String.toList_append, after_append, h.after_eq, after_of_notMem hquote]
  · rw [String.toList_append, outside_append, h.after_eq, outside_of_notMem hquote, List.append_assoc]
    refine h.chains_subset _ fun c hc => ?_
    exact (List.mem_append.mp hc).elim (hb c) (hw c)

theorem after_of_isRest (h : isRest own l) : Place.code.after l = .code := by
  rw [isRest, Bool.and_eq_true] at h
  simp only [isLead, Bool.and_eq_true, beq_iff_eq] at h
  have hquote : '"' ∉ l.takeWhile isOrdinary :=
    quote_notMem_of_isOrdinary fun c hc => List.mem_takeWhile_imp hc
  rw [← List.takeWhile_append_dropWhile (p := isOrdinary) (l := l), after_append,
    after_of_notMem hquote]
  exact h.1.1.1

theorem Lead.literal (h : Lead (own ++ types) a) (hl : isRest own l) :
    Lead (own ++ types) (a ++ .ofList l) := by
  refine ⟨?_, fun w hw => ?_⟩
  · rw [String.toList_append, String.toList_ofList, after_append, h.after_eq, after_of_isRest hl]
  · rw [String.toList_append, String.toList_ofList, outside_append, h.after_eq]
    exact chains_subset_of_isRest hl h.chains_subset (List.subset_append_left _ _) hw

theorem chains_append_of_isGap (front : List Char) (h : isGap l) (rest : List Char) :
    chains (front ++ outside .code l ++ rest) = chains (front ++ outside .code l) ++ chains rest := by
  refine chains_append ?_ rest
  obtain ⟨c, hlast, hc⟩ := (Option.any_eq_true _ _).mp h
  rw [List.getLast?_append, hlast]
  simpa using hc

theorem Gap.ofList (h : isLead own l && isGap l) : Gap (own ++ types) (.ofList l) := by
  rw [Bool.and_eq_true] at h
  refine ⟨.ofList h.1, fun rest => ?_⟩
  rw [String.toList_ofList]
  exact chains_append_of_isGap [] h.2 rest

theorem Lead.gap (h : Lead (own ++ types) a) (hl : isRest own l && isGap l) :
    Gap (own ++ types) (a ++ .ofList l) := by
  rw [Bool.and_eq_true] at hl
  refine ⟨h.literal hl.1, fun rest => ?_⟩
  rw [String.toList_append, String.toList_ofList, outside_append, h.after_eq]
  exact chains_append_of_isGap _ hl.2 rest

theorem Gap.nil : Gap names "" :=
  ⟨⟨rfl, fun w hw => by rw [String.toList_empty, outside, List.nil_append,
    chains_of_isOrdinary hw]; exact List.nil_subset _⟩, fun rest => rfl⟩

theorem Lead.ofName (h : ∀ c ∈ a.toList, isOrdinary c) : Lead names a := by
  have hnil : Lead names "" := Gap.nil.toLead
  have hlead := hnil.name h
  rwa [String.empty_append] at hlead

theorem Gap.append (h : Gap names a) (hb : Lead names b) : Lead names (a ++ b) := by
  refine ⟨?_, fun w hw => ?_⟩
  · rw [String.toList_append, after_append, h.after_eq, hb.after_eq]
  · have hfront := h.chains_subset [] (by simp)
    rw [List.append_nil] at hfront
    rw [String.toList_append, outside_append, h.after_eq, List.append_assoc, h.chains_append]
    exact List.append_subset.mpr ⟨hfront, hb.chains_subset w hw⟩

theorem Gap.append_gap (h : Gap names a) (hb : Gap names b) : Gap names (a ++ b) := by
  refine ⟨h.append hb.toLead, fun rest => ?_⟩
  rw [String.toList_append, outside_append, h.after_eq, List.append_assoc, h.chains_append,
    h.chains_append, hb.chains_append, List.append_assoc]

/-- The name of a package and names of members, with dots between them. -/
theorem Lead.chain (hq : IsName q) (hmem : q ∈ names) (hb : ∀ c ∈ b.toList, isChain c) :
    Lead names (q ++ "." ++ b) := by
  have hlist : (q ++ "." ++ b).toList = q.toList ++ '.' :: b.toList := by simp
  have hquote : '"' ∉ q.toList ++ '.' :: b.toList := by
    rw [List.mem_append, List.mem_cons, not_or, not_or]
    exact ⟨quote_notMem_of_isOrdinary hq.isOrdinary, by decide, fun hc =>
      ne_quote_of_isChain (hb _ hc) rfl⟩
  refine ⟨?_, fun w hw => ?_⟩
  · rw [hlist, after_of_notMem hquote]
  · rw [hlist, outside_of_notMem hquote, List.append_assoc, List.cons_append]
    refine List.Subset.trans (chains_member hq.isOrdinary hq.1 fun c hc => ?_) (by simpa using hmem)
    exact (List.mem_append.mp hc).elim (hb c) fun hc => isChain_of_isOrdinary (hw c hc)

theorem Gap.member (h : Gap names a) (hq : IsName q) (hmem : q ∈ names) (hl : l.all isChain) :
    Lead names (a ++ q ++ .ofList ('.' :: l)) := by
  have hlist : a ++ q ++ .ofList ('.' :: l) = a ++ (q ++ "." ++ .ofList l) := by
    rw [← String.toList_inj]
    simp
  rw [hlist]
  exact h.append (.chain hq hmem (by simpa using hl))

theorem Lead.ofDotless (hquote : '"' ∉ a.toList) (hdot : '.' ∉ a.toList) : Lead names a := by
  refine ⟨after_of_notMem hquote, fun w hw => ?_⟩
  rw [outside_of_notMem hquote, chains_of_dotless]
  · exact List.nil_subset _
  · rw [List.mem_append, not_or]
    exact ⟨hdot, fun hc => ne_dot_of_isOrdinary (hw _ hc) rfl⟩

theorem Lead.ofQuoted (text : String) : Lead names (quoted text) := by
  refine ⟨after_quoted text, fun w hw => ?_⟩
  rw [outside_quoted, List.singleton_append, chains_cons (by decide), chains_of_isOrdinary hw]
  exact List.nil_subset _

/-- A line goes on with characters that stand between names. -/
theorem Lead.apart (h : Lead names a) (hquote : '"' ∉ b.toList)
    (hb : ∀ c ∈ b.toList, isChain c = false) : Lead names (a ++ b) := by
  refine ⟨?_, fun w hw => ?_⟩
  · rw [String.toList_append, after_append, h.after_eq, after_of_notMem hquote]
  · rw [String.toList_append, outside_append, h.after_eq, outside_of_notMem hquote]
    cases hl : b.toList with
    | nil =>
      rw [List.append_nil]
      exact h.chains_subset w hw
    | cons c rest =>
      rw [hl] at hb
      have hnone := h.chains_subset [] (by simp)
      rw [List.append_nil] at hnone
      rw [List.append_assoc, List.cons_append, chains_append_cons _ (hb c List.mem_cons_self),
        chains_apart_append (fun c hc => hb c (List.mem_cons_of_mem _ hc)), chains_of_isOrdinary hw,
        List.append_nil]
      exact hnone

theorem Lead.spaces (h : Lead names a) (n : Nat) :
    Lead names (a ++ .ofList (List.replicate n ' ')) := by
  refine h.apart (by simp) fun c hc => ?_
  rw [String.toList_ofList] at hc
  rw [List.eq_of_mem_replicate hc]
  decide

/-- Code whose lines refer to no other names, where they are no comments. -/
def Cites (names : List String) (code : Code) : Prop :=
  ∀ level, ∀ row ∈ rows level code, isCommentLine row ∨ qualifiers row ⊆ names

def Remark (text : String) : Prop := ['/', '/'] <+: text.toList

theorem Remark.ofList (h : ['/', '/'].isPrefixOf l) : Remark (.ofList l) := by
  rw [Remark, String.toList_ofList]
  exact List.isPrefixOf_iff_prefix.mp h

theorem Remark.append (h : Remark a) (b : String) : Remark (a ++ b) := by
  rw [Remark, String.toList_append]
  exact h.trans (List.prefix_append _ _)

theorem isCommentLine_of_remark (h : Remark a) (level : Nat) :
    isCommentLine (List.replicate level '\t' ++ trim a.toList) := by
  obtain ⟨rest, hrest⟩ := h
  have hslash : isBlank '/' = false := by decide
  have htrim : trim a.toList = '/' :: '/' :: trimEnd rest := by
    have hfirst := trim_append_cons (a := []) (b := '/' :: rest) hslash
    have hsecond := trimEnd_append_cons (a := []) (b := rest) hslash
    rw [List.nil_append] at hfirst hsecond
    rw [← hrest]
    exact hfirst.trans (congrArg ('/' :: ·) hsecond)
  rw [htrim]
  exact isCommentLine_replicate level _

namespace Cites

variable {code more part : Code} {parts : List Code} {texts : List String} {condition : Bool}

theorem mono (h : Cites own code) (hn : own ⊆ names) : Cites names code :=
  fun level row hr => (h level row hr).imp_right fun hsub => List.Subset.trans hsub hn

theorem nil : Cites names [] := by
  intro level row hr
  cases hr

theorem append (h : Cites names code) (hm : Cites names more) : Cites names (code ++ more) := by
  intro level row hr
  rw [rows_append] at hr
  exact (List.mem_append.mp hr).elim (h level row) (hm _ row)

theorem flatten (h : ∀ part ∈ parts, Cites names part) : Cites names parts.flatten := by
  induction parts with
  | nil => exact nil
  | cons part parts ih =>
    exact (h part List.mem_cons_self).append (ih fun part hp => h part (List.mem_cons_of_mem _ hp))

theorem cons (h : Cites names part) (hp : Cites names parts.flatten) :
    Cites names (part :: parts).flatten :=
  h.append hp

theorem single (h : Cites names part) : Cites names [part].flatten := by
  rwa [List.flatten_singleton]

theorem when_of (h : condition → Cites names parts.flatten) :
    Cites names (Code.when condition parts) := by
  cases condition with
  | true => exact h rfl
  | false => exact nil

theorem when (h : Cites names parts.flatten) : Cites names (Code.when condition parts) :=
  when_of fun _ => h

theorem blank : Cites names Code.blank := by
  intro level row hr
  rw [List.mem_singleton.mp hr]
  exact .inr (List.nil_subset _)

theorem comment (text : String) : Cites names (Code.comment text) := by
  intro level row hr
  rw [Code.comment, rows, rows, List.append_nil] at hr
  obtain ⟨_, rest, rfl⟩ := exists_of_mem_rows_comment hr
  exact .inl (isCommentLine_replicate level rest)

theorem mem_rows_line {level : Nat} {row : List Char} (h : row ∈ rows level (Code.line a)) :
    row = [] ∨ ∃ depth, row = List.replicate depth '\t' ++ trim a.toList := by
  rw [Code.line, rows, rows, List.append_nil] at h
  unfold Op.rows at h
  dsimp only at h
  split at h
  · exact .inl (List.mem_singleton.mp h)
  · exact .inr ⟨_, List.mem_singleton.mp h⟩

theorem line_of_subset (h : qualifiers a.toList ⊆ names) : Cites names (Code.line a) := by
  intro level row hr
  obtain rfl | ⟨depth, rfl⟩ := mem_rows_line hr
  · exact .inr (List.nil_subset _)
  · rw [qualifiers_row]
    exact .inr h

theorem line (h : Lead names a) : Cites names (Code.line a) := line_of_subset h.qualifiers_subset

theorem remark (h : Remark a) : Cites names (Code.line a) := by
  intro level row hr
  obtain rfl | ⟨depth, rfl⟩ := mem_rows_line hr
  · exact .inr (List.nil_subset _)
  · exact .inl (isCommentLine_of_remark h depth)

theorem lines (h : ∀ text ∈ texts, Lead names text) : Cites names (Code.lines texts) := by
  induction texts with
  | nil => exact nil
  | cons text texts ih =>
    exact (line (h text List.mem_cons_self)).append
      (ih fun text ht => h text (List.mem_cons_of_mem _ ht))

theorem literal (h : (qualifiers l).all own.contains) :
    Cites (own ++ types) (Code.line (.ofList l)) := by
  rw [List.all_eq_true] at h
  refine line_of_subset fun name hname => List.mem_append_left _ ?_
  rw [String.toList_ofList] at hname
  exact List.contains_iff_mem.mp (h name hname)

/-- Code is known by its operations, whatever their levels. -/
theorem of_all (h : code.all fun
    | .line text => (qualifiers text.toList).all own.contains
    | _ => true) : Cites (own ++ types) code := by
  induction code with
  | nil => exact nil
  | cons op code ih =>
    rw [List.all_cons, Bool.and_eq_true] at h
    have hop : Cites (own ++ types) [op] := ?_
    · exact hop.append (ih h.2)
    cases op with
    | line text =>
      refine line_of_subset fun name hname => List.mem_append_left _ ?_
      exact List.contains_iff_mem.mp (List.all_eq_true.mp h.1 name hname)
    | blank => exact blank
    | comment text => exact comment text
    | enter | leave => exact fun level row hr => nomatch hr

theorem block_tail (ha : Lead (own ++ types) a) (h : Cites (own ++ types) parts.flatten)
    (hl : (qualifiers ('\x7d' :: l)).all own.contains) :
    Cites (own ++ types) (Code.block a parts (.ofList l)) := by
  have hbrace : "\x7b".toList.all (!isChain ·) := by decide
  have hhead : Cites (own ++ types) (Code.line (a ++ "\x7b")) :=
    line (ha.apart (by decide) (by simpa using hbrace))
  have htail : "\x7d" ++ String.ofList l = .ofList ('\x7d' :: l) := by
    rw [← String.toList_inj]
    simp
  have hclose : Cites (own ++ types) (Code.line ("\x7d" ++ .ofList l)) := by
    rw [htail]
    exact literal hl
  exact hhead.append (h.append hclose)

theorem block (ha : Lead (own ++ types) a) (h : Cites (own ++ types) parts.flatten) :
    Cites (own ++ types) (Code.block a parts) :=
  block_tail (l := []) ha h rfl

end Cites

theorem codeLines_written_of_tidy {code : Code} (h : Tidy code) :
    codeLines (written 0 code).toList = (rows 0 code).filter (!isCommentLine ·) ++ [[]] := by
  have hrows : (rows 0 code).flatMap (·.splitOn '\n') = rows 0 code := by
    have hflat := h.flat
    generalize rows 0 code = all at hflat
    induction all with
    | nil => rfl
    | cons row all ih =>
      rw [List.flatMap_cons, List.splitOn_eq_singleton (hflat row List.mem_cons_self),
        ih fun row hr => hflat row (List.mem_cons_of_mem _ hr)]
      rfl
  rw [← List.append_nil (written 0 code).toList, codeLines_written, hrows]
  rfl

/-- The text of code that refers to no other names does neither. -/
theorem Cites.qualifiersOf_subset {code : Code} (hc : Cites names code) (h : Tidy code) :
    qualifiersOf (written 0 code) ⊆ names := by
  rw [qualifiersOf, codeLines_written_of_tidy h]
  intro name hname
  obtain ⟨row, hrow, hname⟩ := List.mem_flatMap.mp hname
  obtain hrow | hrow := List.mem_append.mp hrow
  · obtain ⟨hr, hcode⟩ := List.mem_filter.mp hrow
    obtain hcomment | hsub := hc 0 row hr
    · rw [hcomment] at hcode
      cases hcode
    · exact hsub hname
  · rw [List.mem_singleton.mp hrow] at hname
    cases hname

theorem mem_qualifiersOf_written {code : Code} (h : Tidy code) {row : List Char}
    (hr : row ∈ rows 0 code)
    (hrow : isCommentLine row = false) (hq : q ∈ qualifiers row) :
    q ∈ qualifiersOf (written 0 code) := by
  rw [qualifiersOf, codeLines_written_of_tidy h]
  refine List.mem_flatMap.mpr ⟨row, List.mem_append_left _ ?_, hq⟩
  exact List.mem_filter.mpr ⟨hr, by rw [hrow]; rfl⟩

end Code

end ClientGen
