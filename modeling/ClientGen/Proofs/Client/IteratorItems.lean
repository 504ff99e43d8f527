import ClientGen.Client.Iterator
import ClientGen.Proofs.Client.Methods
import ClientGen.Proofs.Emitter.Printed

namespace ClientGen.Element

open Text Code Emitter

variable {element : Element}

namespace Named

theorem isLine_remark (h : element.Named) :
    IsLine 0 0 s!"// {element.iterator} manages a stream of {element.goType}." :=
  ((((Front.ofList (by decide)).name h.iterator).literal (by decide)).append h.newline_notMem).line
    (by decide)

theorem heads_struct (h : element.Named) :
    Heads s!"type {element.iterator} struct " (.global element.iterator) := by
  refine ⟨((Front.ofList (by decide)).name h.iterator).head (by decide), ?_⟩
  exact Item.ofLine?_global "type " " struct \x7b".toList (by decide) h.iterator
    (by simp [Item.isNamePart_of_mem]) (by simp [toString])

theorem isLine_items (h : element.Named) : IsLine 0 0 s!"items    []{element.goType}" :=
  (Front.ofList (by decide)).last h.newline_notMem h.ends

theorem declares_iteratorStruct (h : element.Named) :
    Declares element.iteratorStruct [.global element.iterator] := by
  have hremark : Declares (line s!"// {element.iterator} manages a stream of {element.goType}.") [] :=
    .remark ((((Front.ofList (by decide)).name h.iterator).literal (by decide)).append
      h.newline_notMem) (by decide)
  have hfetch :
      IsLine 0 0 s!"InternalFetch func(pageSize int, pageToken string) (results []{element.goType}, nextPageToken string, err error)" :=
    ((Front.ofList (by decide)).append h.newline_notMem).line (by decide)
  refine hremark.cons ((Declares.block h.heads_struct (.flatten ?_)).cons Declares.blank.single)
  simp only [List.forall_mem_cons]
  refine ⟨.line h.isLine_items, ?_, ?_, .blank, ?_, ?_, ?_, ?_, ?_, ?_, .line hfetch, by simp⟩
  all_goals exact .literal (by decide)

theorem declares_pageInfo (h : element.Named) :
    Declares element.pageInfo [.method element.iterator "PageInfo"] := by
  have hhead : Heads s!"func (it *{element.iterator}) PageInfo() *iterator.PageInfo "
      (.method element.iterator "PageInfo") := by
    refine ⟨((Front.ofList (by decide)).name h.iterator).head (by decide), ?_⟩
    exact Item.ofLine?_method ['i', 't'] "() *iterator.PageInfo \x7b".toList (by decide) h.iterator
      (.ofList (by decide))
      (by simp [Item.isNamePart_of_mem]) (by simp [toString])
  have hremark :
      Declares (line
        "// PageInfo supports pagination. See the google.golang.org/api/iterator package for details.") [] :=
    .literal (by decide)
  exact hremark.cons ((Declares.block hhead (Tidy.literal (by decide)).single).cons
    Declares.blank.single)

theorem heads_next (h : element.Named) : Heads
    s!"func (it *{element.iterator}) Next() ({element.goType}, error) "
      (.method element.iterator "Next") := by
  refine ⟨((((Front.ofList (by decide)).name h.iterator).literal (by decide)).append
    h.newline_notMem).head (by decide), ?_⟩
  exact Item.ofLine?_method ['i', 't'] ("() (".toList ++
    (element.goType.toList ++ ", error) \x7b".toList))
    (by decide) h.iterator (.ofList (by decide)) (by simp [Item.isNamePart_of_mem])
      (by simp [toString])

theorem declares_next (h : element.Named) :
    Declares element.next [.method element.iterator "Next"] := by
  have hvar : IsLine 0 0 s!"var item {element.goType}" :=
    (Front.ofList (by decide)).last h.newline_notMem h.ends
  have hcheck : Tidy (block "if err := it.nextFunc(); err != nil " [line "return item, err"]) :=
    .block (.brace (by decide)) (Tidy.literal (by decide)).single
  have hfirst :
      Declares (line
        "// Next returns the next result. Its second return value is iterator.Done if there are no more") [] :=
    .literal (by decide)
  have hsecond :
      Declares (line "// results. Once Next returns Done, all subsequent calls will return Done.")
        [] :=
    .literal (by decide)
  refine hfirst.cons
    (hsecond.cons ((Declares.block h.heads_next (.flatten ?_)).cons Declares.blank.single))
  simp only [List.forall_mem_cons]
  exact ⟨.line hvar, hcheck, .literal (by decide), .literal (by decide),
    .literal (by decide), by simp⟩

theorem declares_bufLen (h : element.Named) :
    Declares element.bufLen [.method element.iterator "bufLen"] := by
  have hhead : Heads s!"func (it *{element.iterator}) bufLen() int "
      (.method element.iterator "bufLen") := by
    refine ⟨((Front.ofList (by decide)).name h.iterator).head (by decide), ?_⟩
    exact Item.ofLine?_method ['i', 't'] "() int \x7b".toList (by decide) h.iterator
      (.ofList (by decide)) (by simp [Item.isNamePart_of_mem]) (by simp [toString])
  exact (Declares.block hhead (Tidy.literal (by decide)).single).cons Declares.blank.single

theorem declares_takeBuf (h : element.Named) :
    Declares element.takeBuf [.method element.iterator "takeBuf"] := by
  have hhead : Heads s!"func (it *{element.iterator}) takeBuf() interface\x7b\x7d "
      (.method element.iterator "takeBuf") := by
    refine ⟨((Front.ofList (by decide)).name h.iterator).head (by decide), ?_⟩
    exact Item.ofLine?_method ['i', 't'] "() interface\x7b\x7d \x7b".toList (by decide) h.iterator
      (.ofList (by decide))
      (by simp [Item.isNamePart_of_mem]) (by simp [toString])
  exact (Declares.block hhead ((Tidy.literal (by decide)).cons ((Tidy.literal (by decide)).cons
    (Tidy.literal (by decide)).single))).cons Declares.blank.single

end Named

def items (element : Element) : List Item :=
  .global element.iterator ::
    ["PageInfo", "Next", "bufLen", "takeBuf"].map (.method element.iterator)

theorem Named.declares_declaration (h : element.Named) : Declares element.declaration element.items :=
  h.declares_iteratorStruct.cons (h.declares_pageInfo.cons (h.declares_next.cons
    (h.declares_bufLen.cons h.declares_takeBuf.single)))

/-- A text that declares an iterator over elements of a type: what it holds and what its method
`Next` returns are of this type. -/
structure IteratorText (iterator goType text : String) : Prop where
  declares : Item.ofText text = .global iterator ::
    ["PageInfo", "Next", "bufLen", "takeBuf"].map (.method iterator)
  rows : ∃ rows, text = ofRows rows ∧
    [s!"type {iterator} struct \x7b", s!"\titems    []{goType}"] <:+: rows ∧
    s!"func (it *{iterator}) Next() ({goType}, error) \x7b" ∈ rows

theorem Named.printed_iteratorStruct (h : element.Named) : ∃ below,
    printed 0 element.iteratorStruct =
      [s!"// {element.iterator} manages a stream of {element.goType}."] ++
      [s!"type {element.iterator} struct \x7b", s!"\titems    []{element.goType}"] ++ below := by
  obtain ⟨rest, hrest⟩ : ∃ rest, element.iteratorStruct =
      .line s!"// {element.iterator} manages a stream of {element.goType}." ::
        .line (s!"type {element.iterator} struct " ++ "\x7b") ::
          .line s!"items    []{element.goType}" :: rest := ⟨_, rfl⟩
  have htype :
      s!"type {element.iterator} struct " ++ "\x7b" = s!"type {element.iterator} struct \x7b" := by
    rw [← String.toList_inj]
    simp [toString]
  have hitems : tabs 1 ++ s!"items    []{element.goType}" = s!"\titems    []{element.goType}" := by
    rw [← String.toList_inj]
    simp [tabs, toString]
  refine ⟨printed 1 rest, ?_⟩
  rw [hrest, printed_line_cons h.isLine_remark, printed_line_cons h.heads_struct.isLine,
    printed_line_cons h.isLine_items, htype, hitems]
  simp [tabs_zero_append]

theorem Named.next_mem_printed (h : element.Named) :
    s!"func (it *{element.iterator}) Next() ({element.goType}, error) \x7b" ∈ printed 0
      element.next := by
  obtain ⟨first, second, rest, hfirst, hsecond, hrest⟩ : ∃ first second rest, IsLine 0 0 first ∧
      IsLine 0 0 second ∧ element.next = .line first :: .line second ::
        .line (s!"func (it *{element.iterator}) Next() ({element.goType}, error) " ++ "\x7b") ::
          rest :=
    ⟨_, _, _, .ofList (by decide), .ofList (by decide), rfl⟩
  have hhead : s!"func (it *{element.iterator}) Next() ({element.goType}, error) " ++ "\x7b" =
      s!"func (it *{element.iterator}) Next() ({element.goType}, error) \x7b" := by
    rw [← String.toList_inj]
    simp [toString]
  rw [hrest, printed_line_cons hfirst, printed_line_cons hsecond,
    printed_line_cons h.heads_next.isLine, hhead]
  simp [tabs_zero_append]

theorem Named.rows_declaration (h : element.Named) :
    [s!"type {element.iterator} struct \x7b", s!"\titems    []{element.goType}"] <:+:
        printed 0 element.declaration ∧
      s!"func (it *{element.iterator}) Next() ({element.goType}, error) \x7b" ∈
        printed 0 element.declaration := by
  rw [declaration, seq, printed_cons h.declares_iteratorStruct.toTidy.rises,
    printed_cons h.declares_pageInfo.toTidy.rises, printed_cons h.declares_next.toTidy.rises]
  constructor
  · obtain ⟨below, hbelow⟩ := h.printed_iteratorStruct
    rw [hbelow]
    exact (List.infix_append _ _ _).trans (List.prefix_append _ _).isInfix
  · simp [h.next_mem_printed]

theorem Named.iteratorText (h : element.Named) :
    IteratorText element.iterator element.goType (written 0 element.declaration) :=
  ⟨h.declares_declaration.ofText, printed 0 element.declaration, written_eq_ofRows,
    h.rows_declaration⟩

end ClientGen.Element
