import ClientGen.Proofs.Emitter.Tidy
import Mathlib.Data.List.Basic

namespace ClientGen

open Text Emitter

/-- What a line of a Go file declares that begins at the left margin: the package of the file,
something under a name of its own, or a method of a type. -/
inductive Item
  | package (name : String)
  | global (name : String)
  | method (receiver name : String)
deriving DecidableEq, Repr

namespace Item

def ofReceiver (text : List Char) : Item :=
  let receiver := (text.dropWhile isNamePart).dropWhile (· ∈ [' ', '*'])
  let name := (receiver.dropWhile isNamePart).dropWhile (· ∈ [')', ' '])
  .method (.ofList (word receiver)) (.ofList (word name))

def keywords : List String := ["type ", "func ", "const ", "var "]

def ofLine? (line : List Char) : Option Item :=
  match "func (".toList.isPrefixOf? line, "package ".toList.isPrefixOf? line with
  | some rest, _ => some (ofReceiver rest)
  | none, some rest => some (.package (.ofList (word rest)))
  | none, none => keywords.findSome? fun keyword =>
    (keyword.toList.isPrefixOf? line).map fun rest => .global (.ofList (word rest))

def ofText (text : String) : List Item :=
  (text.toList.splitOn '\n').filterMap ofLine?

variable {line rest v : List Char} {c : Char} {name receiver : String}

theorem ofLine?_cons (h : c ∉ ['f', 'p', 't', 'c', 'v']) : ofLine? (c :: line) = none := by
  simp only [List.mem_cons, List.not_mem_nil, or_false, not_or] at h
  simp [ofLine?, keywords, List.isPrefixOf?, h, Ne.symm]

theorem ofLine?_of_head? (h : line.head? = some '/') : ofLine? line = none := by
  obtain ⟨rest, rfl⟩ := List.head?_eq_some_iff.mp h
  exact ofLine?_cons (by decide)

theorem ofLine?_deeper (row : List Char) : ofLine? (deeper row) = none := by
  cases row with
  | nil => rfl
  | cons c row => exact ofLine?_cons (by decide)

theorem dropWhile_isNamePart (hv : ∀ c ∈ v, isNamePart c) (hc : isNamePart c = false) :
    (v ++ c :: rest).dropWhile isNamePart = c :: rest := by
  rw [List.dropWhile_append_of_pos hv, List.dropWhile_cons_of_neg (by simp [hc])]

theorem exists_of_isName (h : IsName name) : ∃ c cs, name.toList = c :: cs ∧ isNamePart c := by
  cases hn : name.toList with
  | nil => exact absurd (String.toList_eq_nil_iff.mp hn) h.1
  | cons c cs => exact ⟨c, cs, rfl, h.2 c (by rw [hn]; exact List.mem_cons_self)⟩

theorem dropWhile_name (h : IsName name) {p : Char → Bool} (hp : ∀ c, p c → isNamePart c = false) :
    (name.toList ++ rest).dropWhile p = name.toList ++ rest := by
  obtain ⟨c, cs, hc, hn⟩ := exists_of_isName h
  rw [hc, List.cons_append, List.dropWhile_cons_of_neg]
  intro hpc
  rw [hp c hpc] at hn
  cases hn

set_option maxRecDepth 4000 in
theorem isNamePart_of_mem : ∀ c ∈ [' ', '*', ')', '('], isNamePart c = false := by
  have hall : [' ', '*', ')', '('].all (!isNamePart ·) := by decide
  simpa using hall

theorem ofReceiver_append (hv : ∀ c ∈ v, isNamePart c) (hreceiver : IsName receiver)
    (hname : IsName name) (hrest : rest.head?.any isNamePart = false) :
    ofReceiver (v ++ ' ' :: '*' :: (receiver.toList ++ ')' :: ' ' :: (name.toList ++ rest))) =
      .method receiver name := by
  have hspace : isNamePart ' ' = false := isNamePart_of_mem _ (by decide)
  have hparen : isNamePart ')' = false := isNamePart_of_mem _ (by decide)
  unfold ofReceiver
  simp only [dropWhile_isNamePart hv hspace]
  rw [List.dropWhile_cons_of_pos (by decide), List.dropWhile_cons_of_pos (by decide),
    dropWhile_name hreceiver, word_append hreceiver.2 (by simp [hparen]),
    dropWhile_isNamePart hreceiver.2 hparen, List.dropWhile_cons_of_pos (by decide),
    List.dropWhile_cons_of_pos (by decide), dropWhile_name hname, word_append hname.2 hrest,
    String.ofList_toList, String.ofList_toList]
  all_goals
    intro c hc
    refine isNamePart_of_mem c ?_
    simp only [decide_eq_true_eq, List.mem_cons, List.not_mem_nil, or_false] at hc ⊢
    grind

theorem ofLine?_method (v rest : List Char) (hv : v.all isNamePart) (hreceiver : IsName receiver)
    (hname : IsName name) (hrest : rest.head?.any isNamePart = false)
    (h : line = "func (".toList ++
      (v ++ ' ' :: '*' :: (receiver.toList ++ ')' :: ' ' :: (name.toList ++ rest)))) :
    ofLine? line = some (.method receiver name) := by
  rw [h, ← ofReceiver_append (List.all_eq_true.mp hv) hreceiver hname hrest]
  rfl

theorem ofLine?_global (keyword : String) (rest : List Char) (hkeyword : keyword ∈ keywords)
    (hname : IsName name) (hrest : rest.head?.any isNamePart = false)
    (h : line = keyword.toList ++ (name.toList ++ rest)) :
    ofLine? line = some (.global name) := by
  obtain ⟨c, cs, hc, hn⟩ := exists_of_isName hname
  -- the line of a method also begins with a keyword, but a parenthesis follows
  have hparen : c ≠ '(' := by
    rintro rfl
    rw [isNamePart_of_mem _ (by decide)] at hn
    cases hn
  have hword : word (c :: (cs ++ rest)) = name.toList := by
    rw [← List.cons_append, ← hc]
    exact word_append hname.2 hrest
  have hofList : String.ofList (word (c :: (cs ++ rest))) = name := by
    rw [hword, String.ofList_toList]
  rw [h, hc]
  simp only [keywords, List.mem_cons, List.not_mem_nil, or_false] at hkeyword
  obtain rfl | rfl | rfl | rfl := hkeyword
  all_goals simp [ofLine?, keywords, List.isPrefixOf?, hparen, hofList, Ne.symm]

theorem ofLine?_package (hname : IsName name) (h : line = "package ".toList ++ name.toList) :
    ofLine? line = some (.package name) := by
  have hword : String.ofList (word name.toList) = name := by
    have happend : word (name.toList ++ []) = name.toList := word_append hname.2 rfl
    rw [List.append_nil] at happend
    rw [happend, String.ofList_toList]
  rw [h]
  simp [ofLine?, List.isPrefixOf?, hword]

end Item

namespace Emitter

open Item

structure Heads (head : String) (item : Item) : Prop where
  isLine : IsLine 0 1 (head ++ "\x7b")
  item_eq : ofLine? (head ++ "\x7b").toList = some item

structure Declares (code : Code) (items : List Item) : Prop extends Tidy code where
  items_eq : (rows 0 code).filterMap ofLine? = items

namespace Declares

variable {code more part : Code} {parts : List Code} {items others : List Item} {item : Item}
  {text a b tail : String} {l : List Char} {condition : Bool}

theorem of_eq (h : Declares code items) (he : items = others) : Declares code others := he ▸ h

theorem nil : Declares [] [] := ⟨.nil, rfl⟩

theorem append (h : Declares code items) (hm : Declares more others) :
    Declares (code ++ more) (items ++ others) := by
  refine ⟨h.toTidy.append hm.toTidy, ?_⟩
  rw [h.rows_append, List.filterMap_append, h.items_eq, hm.items_eq]

theorem cons (h : Declares part items) (hp : Declares parts.flatten others) :
    Declares (part :: parts).flatten (items ++ others) := by
  rw [List.flatten_cons]
  exact h.append hp

theorem single (h : Declares part items) : Declares [part].flatten items := by
  rw [List.flatten_singleton]
  exact h

theorem flatMap {α : Type} {f : α → Code} {g : α → List Item} {xs : List α}
    (h : ∀ x ∈ xs, Declares (f x) (g x)) : Declares (xs.flatMap f) (xs.flatMap g) := by
  induction xs with
  | nil => exact nil
  | cons x xs ih =>
    rw [List.flatMap_cons, List.flatMap_cons]
    exact (h x List.mem_cons_self).append (ih fun x hx => h x (List.mem_cons_of_mem _ hx))

theorem when (h : Declares parts.flatten items) :
    Declares (Code.when condition parts) (if condition then items else []) := by
  cases condition with
  | true => exact h
  | false => exact nil

theorem blank : Declares Code.blank [] := ⟨.blank, rfl⟩

theorem comment (text : String) : Declares (Code.comment text) [] := by
  refine ⟨.comment text, List.filterMap_eq_nil_iff.mpr fun row hr => ?_⟩
  have hrows : rows 0 (Code.comment text) = Op.rows 0 (.comment text) := List.append_nil _
  rw [hrows] at hr
  obtain ⟨_, rest, rfl⟩ := exists_of_mem_rows_comment hr
  exact ofLine?_of_head? rfl

theorem line (h : IsLine 0 0 text) : Declares (Code.line text) (ofLine? text.toList).toList := by
  refine ⟨.line h, ?_⟩
  have hrows : rows 0 (Code.line text) = Op.rows 0 (.line text) := List.append_nil _
  rw [hrows, rows_line h]
  cases hl : ofLine? text.toList <;> simp [hl]

theorem lines {texts : List String} (h : ∀ text ∈ texts, Declares (Code.line text) []) :
    Declares (Code.lines texts) [] := by
  induction texts with
  | nil => exact nil
  | cons text texts ih =>
    have hrest := ih fun text ht => h text (List.mem_cons_of_mem _ ht)
    exact (h text List.mem_cons_self).append hrest

/-- A line that is a comment. -/
theorem remark (h : Front a (some '/')) (hl : isBack l) :
    Declares (Code.line (a ++ .ofList l)) [] := by
  have hslash : ofLine? (a ++ .ofList l).toList = none := by
    refine ofLine?_of_head? ?_
    obtain ⟨rest, hrest⟩ := List.head?_eq_some_iff.mp h.head_eq
    rw [String.toList_append, hrest]
    rfl
  exact (line (h.line hl)).of_eq (by rw [hslash]; rfl)

theorem literal (h : isBack ('/' :: l)) : Declares (Code.line (.ofList ('/' :: l))) [] := by
  rw [isBack, Bool.and_eq_true] at h
  have hfront : Front (.ofList ('/' :: l)) (some '/') :=
    .ofList (Bool.and_eq_true_iff.mpr ⟨rfl, h.2⟩)
  refine (line (hfront.isLine (ends_ofList h.1))).of_eq ?_
  rw [ofLine?_of_head? hfront.head_eq]
  rfl

theorem block (ha : Heads a item) (h : Tidy parts.flatten) :
    Declares (Code.block a parts) [item] := by
  have htail : IsLine 1 0 ("\x7d" ++ "") := by decide
  refine ⟨.block ha.isLine h, ?_⟩
  have hinner : ((rows 0 parts.flatten).map deeper).filterMap ofLine? = [] := by
    rw [List.filterMap_eq_nil_iff]
    intro row hr
    obtain ⟨row, _, rfl⟩ := List.mem_map.mp hr
    exact ofLine?_deeper row
  rw [Tidy.rows_block ha.isLine h htail, List.filterMap_cons_some ha.item_eq, List.filterMap_append,
    hinner]
  rfl

end Declares

variable {code : Code} {items : List Item}

/-- What a text declares that begins with what such code writes. -/
theorem Declares.ofText_append (h : Declares code items) (rest : String) :
    ofText (written 0 code ++ rest) = items ++ ofText rest := by
  have hrows : (rows 0 code).flatMap (·.splitOn '\n') = rows 0 code := by
    have hmap : (rows 0 code).map (·.splitOn '\n') = (rows 0 code).map fun row => [row] :=
      List.map_congr_left fun row hr => List.splitOn_eq_singleton (h.flat row hr)
    rw [List.flatMap_def, hmap, ← List.flatMap_def, List.flatMap_singleton']
  rw [ofText, String.toList_append, splitOn_written, hrows, List.filterMap_append, h.items_eq]
  rfl

theorem Declares.ofText (h : Declares code items) : Item.ofText (written 0 code) = items := by
  have hend : Item.ofText "" = [] := rfl
  have hrest := h.ofText_append ""
  rw [String.append_empty, hend, List.append_nil] at hrest
  exact hrest

end Emitter

end ClientGen
