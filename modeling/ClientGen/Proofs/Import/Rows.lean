import ClientGen.Client.Header
import ClientGen.Proofs.Client.Imports
import ClientGen.Proofs.Emitter.Printed
import ClientGen.Proofs.Import.Order

namespace ClientGen

open Text Code Emitter

namespace Emitter

variable {level : Nat} {ops more : List Op} {text : String} {texts : List String}

def IsRow (row text : String) : Prop := ∃ depth, row = tabs depth ++ trimmed text

theorem IsRow.trimmed_eq {row : String} (h : IsRow row text) : trimmed row = trimmed text := by
  obtain ⟨depth, rfl⟩ := h
  rw [trimmed, String.toList_append, trim_append_of_blank_left (isBlankText_tabs depth), ← trimmed,
    trimmed_trimmed]

theorem printed_append_eq : printed level (ops ++ more) =
    printed level ops ++ printed (levelAfter level ops) more := by
  rw [printed, rows_append, List.map_append]
  rfl

theorem exists_printed_line (h : ¬IsBlankText text.toList) (level : Nat) :
    ∃ row, printed level (Code.line text) = [row] ∧ IsRow row text := by
  have hne : (trim text.toList).isEmpty = false := by
    rw [List.isEmpty_eq_false_iff]
    exact mt trim_eq_nil_iff.mp h
  refine ⟨_, ?_, level - closers (trim text.toList), rfl⟩
  rw [printed, Code.line, rows, Op.rows]
  simp [hne, rows, tabs, trimmed]

theorem exists_row_of_mem (h : .line text ∈ ops) (hne : ¬IsBlankText text.toList) (level : Nat) :
    ∃ row ∈ printed level ops, IsRow row text := by
  obtain ⟨before, after, rfl⟩ := List.append_of_mem h
  have hsplit : before ++ .line text :: after = before ++ (Code.line text ++ after) := rfl
  obtain ⟨row, hrow, hisRow⟩ := exists_printed_line hne (levelAfter level before)
  refine ⟨row, ?_, hisRow⟩
  rw [hsplit, printed_append_eq, printed_append_eq, hrow]
  simp

theorem forall₂_printed_lines (h : ∀ text ∈ texts, ¬IsBlankText text.toList) (level : Nat) :
    List.Forall₂ IsRow (printed level (Code.lines texts)) texts := by
  induction texts generalizing level with
  | nil => exact .nil
  | cons text texts ih =>
    obtain ⟨row, hrow, hisRow⟩ := exists_printed_line (h text List.mem_cons_self) level
    have hsplit : Code.lines (text :: texts) = Code.line text ++ Code.lines texts := rfl
    rw [hsplit, printed_append_eq, hrow]
    exact .cons hisRow (ih (fun text ht => h text (List.mem_cons_of_mem _ ht)) _)

end Emitter

namespace ImportSpec

variable {spec s t : ImportSpec} {row : String}

def Shown (spec : ImportSpec) (row : String) : Prop := IsRow row spec.spelling

theorem toList_spelling (spec : ImportSpec) : spec.spelling.toList =
    spec.lead ++ '"' :: (spec.path.toList.flatMap Quoted.escape ++ '"' :: []) := by
  rw [← render_eq_spelling, toList_render]
  rfl

theorem not_isBlankText_spelling (spec : ImportSpec) : ¬IsBlankText spec.spelling.toList := by
  intro hblank
  rw [toList_spelling] at hblank
  exact absurd (hblank '"' (by simp)) (by decide)

/-- The spelling loses no white space in a row if the name has none at its ends. -/
theorem trimmed_spelling (h : trimmed spec.name = spec.name) :
    trimmed spec.spelling = spec.spelling := by
  have hquote : isBlank '"' = false := by decide
  have hlead : trimStart spec.lead = spec.lead := by
    unfold lead
    split
    · rfl
    · rename_i hne
      obtain ⟨c, cs, hc⟩ := List.exists_cons_of_ne_nil (mt String.toList_eq_nil_iff.mp hne)
      have htrim : (trim spec.name.toList).head? = some c := by
        rw [← String.toList_ofList (l := trim spec.name.toList), ← trimmed, h, hc]
        rfl
      rw [hc, List.cons_append, trimStart,
        List.dropWhile_cons_of_neg (by simp [not_isBlank_of_head?_trim htrim])]
  rw [← String.toList_inj, trimmed, String.toList_ofList, toList_spelling,
    trim_append_cons hquote, hlead, trimEnd_append_cons hquote]
  rfl

theorem Shown.trimmed_eq (h : spec.Shown row) (hname : trimmed spec.name = spec.name) :
    trimmed row = spec.spelling :=
  (IsRow.trimmed_eq h).trans (trimmed_spelling hname)

/-- A row tells what it imports. -/
theorem Shown.eq (hs : s.Shown row) (ht : t.Shown row) (hsname : trimmed s.name = s.name)
    (htname : trimmed t.name = t.name) : s = t :=
  spelling_injective ((hs.trimmed_eq hsname).symm.trans (ht.trimmed_eq htname))

end ImportSpec

namespace Header

variable {imports others : ImportSet}

/-- The rows of an import block. A blank row sets the groups apart just if both are there. -/
def IsBlock (std others : List ImportSpec) (rows : List String) : Prop :=
  ∃ opening first second closing, IsRow opening "import (" ∧ IsRow closing ")" ∧
    List.Forall₂ (fun row spec => spec.Shown row) first std ∧
    List.Forall₂ (fun row spec => spec.Shown row) second others ∧
    rows = opening :: (first ++ ((if std = [] ∨ others = [] then [] else [""]) ++
      (second ++ [closing, ""])))

theorem importBlock_congr (h : ∀ spec, spec ∈ imports.specs ↔ spec ∈ others.specs) :
    importBlock imports = importBlock others := by
  have hempty : imports.isEmpty = others.isEmpty := by
    rw [Bool.eq_iff_iff, ImportSet.isEmpty, ImportSet.isEmpty, List.isEmpty_iff, List.isEmpty_iff,
      List.eq_nil_iff_forall_not_mem, List.eq_nil_iff_forall_not_mem]
    simp only [h]
  rw [importBlock, importBlock, ImportSet.sorted_congr h, ImportSet.boundary_congr h, hempty]

theorem forall₂_printed_render (specs : List ImportSpec) (level : Nat) :
    List.Forall₂ (fun row spec => spec.Shown row)
      (printed level (Code.lines (specs.map ImportSpec.render))) specs := by
  have htexts : ∀ text ∈ specs.map ImportSpec.spelling, ¬IsBlankText text.toList := by
    intro text ht
    obtain ⟨spec, _, rfl⟩ := List.mem_map.mp ht
    exact spec.not_isBlankText_spelling
  rw [List.map_congr_left fun spec _ => spec.render_eq_spelling]
  exact List.forall₂_map_right_iff.mp (forall₂_printed_lines htexts level)

theorem isBlock_printed (h : imports.specs ≠ []) (level : Nat) :
    IsBlock (imports.sorted.take imports.boundary) (imports.sorted.drop imports.boundary)
      (printed level (importBlock imports)) := by
  have hempty : imports.isEmpty = false := by simpa [ImportSet.isEmpty] using h
  generalize hstd : imports.sorted.take imports.boundary = std
  generalize hothers : imports.sorted.drop imports.boundary = others
  have hsplit : importBlock imports = Code.line "import (" ++ ([.enter] ++
      (Code.lines (std.map ImportSpec.render) ++
        (when (!std.isEmpty && !others.isEmpty) [Code.blank] ++
        (Code.lines (others.map ImportSpec.render) ++
          ([.leave] ++ (Code.line ")" ++ Code.blank)))))) := by
    simp [importBlock, hempty, hstd, hothers, when, seq, parens, Code.line, Code.blank]
  have hgap (level : Nat) : printed level (when (!std.isEmpty && !others.isEmpty) [Code.blank]) =
      if std = [] ∨ others = [] then [] else [""] := by
    cases std <;> cases others <;> rfl
  have henter (level : Nat) : printed level [.enter] = [] := rfl
  have hleave (level : Nat) : printed level [.leave] = [] := rfl
  have hblank (level : Nat) : printed level Code.blank = [""] := rfl
  have hline (text : String) (h : ¬IsBlankText text.toList) := exists_printed_line h
  choose opening hopening hisOpening using hline "import (" (by decide)
  choose closing hclosing hisClosing using hline ")" (by decide)
  rw [hsplit]
  simp only [printed_append_eq, hopening, henter, hleave, hgap, hblank, hclosing, List.nil_append]
  exact ⟨_, _, _, _, hisOpening _, hisClosing _, forall₂_printed_render std _,
    forall₂_printed_render others _, rfl⟩

/-- Above the imports a header is the same without them. -/
theorem render_code_eq (options : Options) (imports : ImportSet) (doc : Option String) :
    render (code options imports doc) = render (code options .empty doc) ++
      ofRows (printed (levelAfter 0 (code options .empty doc)) (importBlock imports)) := by
  rw [code_eq, render_eq, written_append, @written_eq_ofRows _ (importBlock _)]
  rfl

theorem IsBlock.map_trimmed {std others : List ImportSpec} {rows : List String}
    (h : IsBlock std others rows) (hnames : ∀ spec ∈ std ++ others, trimmed spec.name = spec.name) :
    rows.map trimmed = "import (" :: (std.map ImportSpec.spelling ++
      ((if std = [] ∨ others = [] then [] else [""]) ++
      (others.map ImportSpec.spelling ++ [")", ""]))) := by
  obtain ⟨opening, first, second, closing, hopening, hclosing, hfirst, hsecond, rfl⟩ := h
  have hspecs {texts : List String} {specs : List ImportSpec}
      (h : List.Forall₂ (fun row (spec : ImportSpec) => spec.Shown row) texts specs)
      (hs : ∀ spec ∈ specs, trimmed spec.name = spec.name) :
      texts.map trimmed = specs.map ImportSpec.spelling := by
    refine (Except.map_eq_of_forall₂ ?_).symm
    induction h with
    | nil => exact .nil
    | cons hshown _ ih =>
      refine .cons (hshown.trimmed_eq (hs _ List.mem_cons_self)).symm ?_
      exact ih fun spec hspec => hs spec (List.mem_cons_of_mem _ hspec)
  have hgap : (if std = [] ∨ others = [] then [] else [""]).map trimmed =
      if std = [] ∨ others = [] then [] else [""] := by
    split <;> rfl
  simp only [List.map_cons, List.map_append, List.map_nil, hopening.trimmed_eq,
    hclosing.trimmed_eq, hgap, hspecs hfirst fun spec hs => hnames spec (List.mem_append_left _ hs),
    hspecs hsecond fun spec hs => hnames spec (List.mem_append_right _ hs)]
  rfl

/-- Where names have no white space around them, each import stands on one row. -/
theorem IsBlock.count_spelling {std others : List ImportSpec} {rows : List String}
    (h : IsBlock std others rows)
    (hnodup : (std ++ others).Nodup) (hnames : ∀ spec ∈ std ++ others, trimmed spec.name = spec.name)
    {spec : ImportSpec} (hs : spec ∈ std ++ others) : (rows.map trimmed).count spec.spelling = 1 := by
  have hne (text : String) (hquote : '"' ∉ text.toList) : (text == spec.spelling) = false := by
    rw [beq_eq_false_iff_ne]
    rintro rfl
    exact hquote (by rw [ImportSpec.toList_spelling]; simp)
  have hgap : (if std = [] ∨ others = [] then [] else [""]).count spec.spelling = 0 := by
    split
    · rfl
    · simp [List.count_cons, hne "" (by simp)]
  have hone : ((std ++ others).map ImportSpec.spelling).count spec.spelling = 1 :=
    List.count_eq_one_of_mem (hnodup.map ImportSpec.spelling_injective) (List.mem_map_of_mem hs)
  rw [List.map_append, List.count_append] at hone
  rw [h.map_trimmed hnames, List.count_cons, List.count_append, List.count_append,
    List.count_append, hgap]
  simp [List.count_cons, hne "import (" (by decide), hne ")" (by decide), hne "" (by decide)]
  omega

theorem exists_shown {spec : ImportSpec} (h : spec ∈ imports.specs) (options : Options)
    (doc : Option String) : ∃ row ∈ printed 0 (code options imports doc), spec.Shown row := by
  refine exists_row_of_mem ?_ spec.not_isBlankText_spelling 0
  rw [code_eq, List.mem_append, ← mem_texts, ← mem_texts, texts_importBlock (List.ne_nil_of_mem h),
    ← spec.render_eq_spelling]
  refine .inr (List.mem_cons_of_mem _ (List.mem_append_left _ ?_))
  exact List.mem_map_of_mem (mem_sorted.mpr h)

/-- What is imported decides how the imports are written, whatever the order and however often they
were inserted: each once, in the order of `ImportSpec.order`, standard packages above the others, on
a row that shows its name and its path. -/
theorem importBlock_canonical {a b : List ImportSpec} (h : ∀ spec, spec ∈ a ↔ spec ∈ b) :
    (ImportSet.ofList b).sorted = (ImportSet.ofList a).sorted ∧
      (ImportSet.ofList b).boundary = (ImportSet.ofList a).boundary ∧
      (ImportSet.ofList a).sorted.Nodup ∧ (∀ spec, spec ∈ (ImportSet.ofList a).sorted ↔ spec ∈ a) ∧
      ((ImportSet.ofList a).sorted.Pairwise fun s t => s.order t = .lt) ∧
      (ImportSet.ofList a).boundary ≤ (ImportSet.ofList a).sorted.length ∧
      (∀ spec ∈ (ImportSet.ofList a).sorted.take (ImportSet.ofList a).boundary,
        '.' ∉ spec.path.toList) ∧
      (∀ spec ∈ (ImportSet.ofList a).sorted.drop (ImportSet.ofList a).boundary,
        '.' ∈ spec.path.toList) ∧
      (∀ s t u : ImportSpec, (s.order t = .eq ↔ s = t) ∧ t.order s = (s.order t).swap ∧
        ((s.order t).isLE → (t.order u).isLE → (s.order u).isLE)) ∧
      (∀ (s t : ImportSpec) row, s.Shown row → t.Shown row → trimmed s.name = s.name →
        trimmed t.name = t.name → s = t) ∧
      ∀ options doc, render (code options (.ofList b) doc) = render (code options (.ofList a) doc) ∧
        ∃ rows, render (code options (.ofList a) doc) =
          render (code options .empty doc) ++ ofRows rows ∧ (a = [] → rows = []) ∧
          (a ≠ [] → IsBlock ((ImportSet.ofList a).sorted.take (ImportSet.ofList a).boundary)
            ((ImportSet.ofList a).sorted.drop (ImportSet.ofList a).boundary) rows) := by
  have hspecs (spec : ImportSpec) : spec ∈ (ImportSet.ofList b).specs ↔
      spec ∈ (ImportSet.ofList a).specs := by
    rw [ImportSet.mem_ofList, ImportSet.mem_ofList, h]
  refine ⟨ImportSet.sorted_congr hspecs, ImportSet.boundary_congr hspecs, nodup_sorted _,
    fun spec => mem_sorted.trans ImportSet.mem_ofList, ImportSet.pairwise_sorted _,
    List.findIdx_le_length, fun spec hs => ?_, fun spec hs => ?_, fun s t u => ?_,
    fun _ _ _ => ImportSpec.Shown.eq, fun options doc => ⟨?_, ?_⟩⟩
  · exact ImportSpec.isStd_iff.mp (ImportSet.isStd_of_mem_take hs)
  · have hother := ImportSet.isStd_of_mem_drop hs
    rwa [Bool.eq_false_iff, Ne, ImportSpec.isStd_iff, not_not] at hother
  · exact ⟨ImportSpec.order_eq_iff, s.order_swap t, Std.TransCmp.isLE_trans⟩
  · rw [code_eq, code_eq _ (.ofList a), importBlock_congr hspecs]
  · refine ⟨_, render_code_eq options _ doc, ?_, ?_⟩
    · rintro rfl
      rfl
    · intro hne
      refine isBlock_printed (fun hnil => hne ?_) _
      refine List.eq_nil_iff_forall_not_mem.mpr fun spec hs => ?_
      rw [← ImportSet.mem_ofList, hnil] at hs
      cases hs

def retryImports : List ImportSpec :=
  [ClientImport.gax, ClientImport.time, ClientImport.context, ClientImport.gax, ClientImport.codes]

theorem importBlock_canonical_retry :
    (∀ spec, spec ∈ retryImports ↔ spec ∈ retryImports.eraseDups.reverse) ∧
      (ImportSet.ofList retryImports.eraseDups.reverse).sorted =
        [ClientImport.context, ClientImport.time, ClientImport.gax, ClientImport.codes] ∧
      (ImportSet.ofList retryImports.eraseDups.reverse).boundary = 2 ∧
      render (code Client.shopOptions (.ofList retryImports.eraseDups.reverse) none) =
        render (code Client.shopOptions (.ofList retryImports) none) ∧
      ∃ rows, render (code Client.shopOptions (.ofList retryImports) none) =
          render (code Client.shopOptions .empty none) ++ ofRows rows ∧
        IsBlock [ClientImport.context, ClientImport.time] [ClientImport.gax,
          ClientImport.codes] rows := by
  have hspecs : ∀ spec, spec ∈ retryImports ↔ spec ∈ retryImports.eraseDups.reverse := by
    simp
  have hsorted : (ImportSet.ofList retryImports).sorted =
      [ClientImport.context, ClientImport.time, ClientImport.gax, ClientImport.codes] := by
    refine ImportSet.sorted_eq_iff.mpr ⟨by decide, fun spec => ?_⟩
    rw [ImportSet.mem_ofList]
    simp only [retryImports, List.mem_cons, List.not_mem_nil, or_false]
    tauto
  have hboundary : (ImportSet.ofList retryImports).boundary = 2 := by
    rw [ImportSet.boundary, hsorted]
    decide
  obtain ⟨hsame, hcut, _, _, _, _, _, _, _, _, hheader⟩ := importBlock_canonical hspecs
  obtain ⟨hrender, rows, hrows, _, hblock⟩ := hheader Client.shopOptions none
  refine ⟨hspecs, hsame.trans hsorted, hcut.trans hboundary, hrender, rows, hrows, ?_⟩
  rw [hsorted, hboundary] at hblock
  exact hblock (by decide)

end Header

end ClientGen
