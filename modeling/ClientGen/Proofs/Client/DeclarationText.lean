import ClientGen.Client.Iterator
import ClientGen.Proofs.Emitter.Level

namespace ClientGen.Element

open Text Code Emitter

variable (element : Element)

def typeOpeners : Nat := openers (trimEnd element.goType.toList)

theorem rises_typeLine {before : String} (hs : starts before) (hb : openers before.toList = 0)
    (ht : openers (trimEnd before.toList) = 0) :
    Rises element.typeOpeners (line (before ++ element.goType)) := by
  refine (Rises.line (starts_append hs _)).of_eq ?_
  rw [String.toList_append, openers_trimEnd_append hb ht]
  rfl

theorem rises_iteratorStruct : Rises element.typeOpeners element.iteratorStruct := by
  have hcomment : Rises 0 (line s!"// {element.iterator} manages a stream of {element.goType}.") :=
    .plain (starts_append
      (starts_append (starts_append (starts_append (starts_ofList (by decide)) _) _) _) _)
      (ends_append (ends_ofList (by decide)) _)
  have hhead : starts s!"type {element.iterator} struct " :=
    starts_append (starts_append (starts_ofList (by decide)) _) _
  have hitems : Rises element.typeOpeners (line s!"items    []{element.goType}") :=
    element.rises_typeLine (by decide) (by decide) (by decide)
  have hfetch :
      Rises 0 (line
        s!"InternalFetch func(pageSize int, pageToken string) (results []{element.goType}, nextPageToken string, err error)") :=
    .plain (starts_append (starts_append (starts_ofList (by decide)) _) _)
      (ends_append (ends_ofList (by decide)) _)
  refine (hcomment.cons
    ((Rises.block hhead (openers_append (openers_ofList (by decide)) (by decide) _)
    (hitems.cons (.flatten ?_))).cons Rises.blank.single)).of_eq (by omega)
  simp only [List.forall_mem_cons]
  refine ⟨?_, ?_, .blank, ?_, ?_, ?_, ?_, ?_, ?_, hfetch, ?_⟩
  case refine_9 => simp
  all_goals exact .literal (by decide) (by decide)

theorem rises_pageInfo : Rises 0 element.pageInfo := by
  have hhead : starts s!"func (it *{element.iterator}) PageInfo() *iterator.PageInfo " :=
    starts_append (starts_append (starts_ofList (by decide)) _) _
  have hcomment :
      Rises 0 (line
        "// PageInfo supports pagination. See the google.golang.org/api/iterator package for details.") :=
    .literal (by decide) (by decide)
  have hreturn : Rises 0 (line "return it.pageInfo") := .literal (by decide) (by decide)
  have hblock := Rises.block hhead (openers_append (openers_ofList (by decide)) (by decide) _)
    hreturn.single
  exact hcomment.cons (hblock.cons Rises.blank.single)

theorem rises_next : Rises element.typeOpeners element.next := by
  have hhead : starts s!"func (it *{element.iterator}) Next() ({element.goType}, error) " :=
    starts_append (starts_append (starts_append (starts_append (starts_ofList (by decide)) _) _) _) _
  have hitem : Rises element.typeOpeners (line s!"var item {element.goType}") :=
    element.rises_typeLine (by decide) (by decide) (by decide)
  have hreturn : Rises 0 (line "return item, err") := .literal (by decide) (by decide)
  have hcheck : Rises 0 (block "if err := it.nextFunc(); err != nil " [line "return item, err"]) :=
    .block (by decide) (by decide) hreturn.single
  have hrest : Rises 0 [line "item = it.items[0]", line "it.items = it.items[1:]",
      line "return item, nil"].flatten := by
    refine .flatten ?_
    simp only [List.forall_mem_cons]
    refine ⟨?_, ?_, ?_, by simp⟩
    all_goals exact .literal (by decide) (by decide)
  have hblock := Rises.block hhead (openers_append (openers_ofList (by decide)) (by decide) _)
    (hitem.cons (hcheck.cons hrest))
  have hcomment :
      Rises 0 (line
        "// Next returns the next result. Its second return value is iterator.Done if there are no more") :=
    .literal (by decide) (by decide)
  have hdone :
      Rises 0 (line "// results. Once Next returns Done, all subsequent calls will return Done.") :=
    .literal (by decide) (by decide)
  exact (hcomment.cons (hdone.cons (hblock.cons Rises.blank.single))).of_eq (by omega)

theorem rises_bufLen : Rises 0 element.bufLen := by
  have hhead : starts s!"func (it *{element.iterator}) bufLen() int " :=
    starts_append (starts_append (starts_ofList (by decide)) _) _
  have hreturn : Rises 0 (line "return len(it.items)") := .literal (by decide) (by decide)
  have hblock := Rises.block hhead (openers_append (openers_ofList (by decide)) (by decide) _)
    hreturn.single
  exact hblock.cons Rises.blank.single

theorem rises_takeBuf : Rises 0 element.takeBuf := by
  have hhead : starts s!"func (it *{element.iterator}) takeBuf() interface\x7b\x7d " :=
    starts_append (starts_append (starts_ofList (by decide)) _) _
  have hbody : Rises 0 [line "b := it.items", line "it.items = nil", line "return b"].flatten := by
    refine .flatten ?_
    simp only [List.forall_mem_cons]
    refine ⟨?_, ?_, ?_, by simp⟩
    all_goals exact .literal (by decide) (by decide)
  have hblock := Rises.block hhead (openers_append (openers_ofList (by decide)) (by decide) _) hbody
  exact hblock.cons Rises.blank.single

/-- The lines after a declaration are deeper than those before it if the type of the elements ends
in a brace, for two of its lines end in the type. -/
theorem rises_declaration : Rises (2 * element.typeOpeners) element.declaration :=
  (element.rises_iteratorStruct.cons (element.rises_pageInfo.cons (element.rises_next.cons
    (element.rises_bufLen.cons element.rises_takeBuf.single)))).of_eq (by omega)

/-- A declaration begins with its comment, and ends with the closing brace of its last method. -/
theorem exists_declaration_eq : ∃ inner, element.declaration =
    [.line s!"// {element.iterator} manages a stream of {element.goType}."] ++ (inner ++
      ([.line "return b"] ++ ([.line "\x7d"] ++ [.blank]))) := by
  obtain ⟨rest, hrest⟩ : ∃ rest, element.iteratorStruct =
      .line s!"// {element.iterator} manages a stream of {element.goType}." :: rest := ⟨_, rfl⟩
  obtain ⟨front, hfront⟩ : ∃ front, element.takeBuf =
      front ++ ([.line "return b"] ++ ([.line "\x7d"] ++ [.blank])) :=
    ⟨[_, _, _], rfl⟩
  refine ⟨rest ++ (element.pageInfo ++ (element.next ++ (element.bufLen ++ front))), ?_⟩
  change element.iteratorStruct ++ (element.pageInfo ++ (element.next ++ (element.bufLen ++
    (element.takeBuf ++ [])))) = _
  rw [hrest, hfront]
  simp

theorem trim_brace : trim "\x7d".toList = ['\x7d'] := by decide

theorem written_brace (level : Nat) : (written level [.line "\x7d"]).toList =
    List.replicate (level - 1) '\t' ++ ['\x7d', '\n'] := by
  rw [written_line (by rw [trim_brace]; exact List.cons_ne_nil _ _), trim_brace, String.toList_ofList,
    indented, List.append_assoc]
  rfl

theorem written_close (level : Nat) : (written level ([.line "\x7d"] ++ [.blank])).toList =
    List.replicate (level - 1) '\t' ++ ['\x7d', '\n', '\n'] := by
  have hblank (level : Nat) : written level [.blank] = "\n" := rfl
  rw [written_append, String.toList_append, written_brace, hblank, List.append_assoc]
  rfl

theorem levelAfter_close (level : Nat) :
    levelAfter level ([.line "\x7d"] ++ [.blank]) = level - 1 := by
  rw [levelAfter_append, levelAfter_line, trim_brace]
  rfl

theorem written_comment (level : Nat) : ∃ rest,
    (written level [.line s!"// {element.iterator} manages a stream of {element.goType}."]).toList =
      List.replicate level '\t' ++ ['/', '/', ' '] ++ element.iterator.toList ++ rest := by
  have hstarts : starts s!"// {element.iterator} manages a stream of {element.goType}." :=
    starts_append (starts_append (starts_append (starts_append (starts_ofList (by decide)) _) _) _) _
  have hends : ends s!"// {element.iterator} manages a stream of {element.goType}." :=
    ends_append (ends_ofList (by decide)) _
  have htrim := (trim_of_starts hstarts).trans (trimEnd_of_ends hends)
  have hlist : s!"// {element.iterator} manages a stream of {element.goType}.".toList =
      ['/', '/', ' '] ++ (element.iterator.toList ++
        s!" manages a stream of {element.goType}.".toList) := by
    simp only [String.toList_append, List.append_assoc]
    rfl
  refine ⟨s!" manages a stream of {element.goType}.".toList ++ ['\n'], ?_⟩
  rw [written_line (by rw [htrim, hlist]; simp), closers_of_starts hstarts, htrim, hlist,
    String.toList_ofList, indented, Nat.sub_zero]
  simp only [List.append_assoc]

theorem written_declaration (level : Nat) : ∃ middle,
    (written level element.declaration).toList =
      List.replicate level '\t' ++ ['/', '/', ' '] ++ element.iterator.toList ++ middle ++
        '\n' :: (List.replicate (level + 2 * element.typeOpeners) '\t' ++ ['\x7d', '\n', '\n']) := by
  obtain ⟨inner, hinner⟩ := element.exists_declaration_eq
  obtain ⟨rest, hcomment⟩ := element.written_comment level
  have hlevel := element.rises_declaration level
  have hreturn (level : Nat) : ∃ front, (written level [.line "return b"]).toList = front ++ ['\n'] :=
    ⟨_, by rw [written_line (by decide), String.toList_ofList, indented]⟩
  rw [hinner] at hlevel ⊢
  rw [levelAfter_append, levelAfter_append, levelAfter_append, levelAfter_close] at hlevel
  rw [written_append, written_append, written_append, String.toList_append, String.toList_append,
    String.toList_append, written_close, hlevel, hcomment]
  -- only the lines at both ends count, so the level between them can be any
  generalize levelAfter level _ = middleLevel
  obtain ⟨front, hfront⟩ := hreturn (levelAfter middleLevel inner)
  refine ⟨rest ++ ((written middleLevel inner).toList ++ front), ?_⟩
  rw [hfront]
  simp only [List.append_assoc, List.cons_append, List.nil_append]

end ClientGen.Element
