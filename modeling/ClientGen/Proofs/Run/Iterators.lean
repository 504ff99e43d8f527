import ClientGen.Proofs.Client.Segments
import ClientGen.Proofs.Import.Rows
import ClientGen.Proofs.Run.Identifiers

namespace ClientGen

open Schema Client Text Emitter

theorem Item.count_global (items : List Item) (name : String) :
    items.count (.global name) = (items.filterMap global?).count name := by
  induction items with
  | nil => rfl
  | cons item items ih =>
    cases item with
    | global other => simp [List.count_cons, global?, ih]
    | package | method =>
      rw [List.filterMap_cons_none rfl, ← ih]
      simp

namespace PageElement

/-- How the rows of a file spell the Go type of a page element: that of a message by the name under
which one of them imports its package. -/
inductive SpelledIn (catalog : Catalog) (rows : List String) : PageElement → String → Prop
  | message {typeName row : String} {type : GoType} (ht : catalog.goType typeName = .ok type)
      (hr : row ∈ rows) (hi : type.spec.Shown row) :
      SpelledIn catalog rows (.message typeName) s!"*{type.spec.name}.{type.name}"
  | scalar {goType stem : String} : SpelledIn catalog rows (.scalar goType stem) goType

/-- A file that declares an iterator over a page element: what it holds and what its method `Next`
returns are of the element's Go type. -/
def DeclaredIn (catalog : Catalog) (page : PageElement) (text : String) : Prop :=
  ∃ rows goType, text = ofRows rows ∧ page.SpelledIn catalog rows goType ∧
    [s!"type {page.iteratorName} struct \x7b", s!"\titems    []{goType}"] <:+: rows ∧
    s!"func (it *{page.iteratorName}) Next() ({goType}, error) \x7b" ∈ rows

end PageElement

namespace Client

variable {catalog : Catalog} {options : Options} {before : List String} {client : Client}
  {element : Element} {page : PageElement} {call : Call} {spec : ImportSpec} {method : Method}

def fileRows (options : Options) (before : List String) (client : Client) : List String :=
  printed 0 (Header.code options client.imports none) ++ printed 0 (client.segments before).flatten

theorem content_eq_ofRows (options : Options) (before : List String) (client : Client) :
    (client.outputFile options before).content = ofRows (client.fileRows options before) := by
  rw [fileRows, ofRows_append, ← written_eq_ofRows, ← written_eq_ofRows, ← body_eq_written]
  rfl

theorem Spelled.infix_fileRows (h : client.Spelled) (options : Options) {segment : Code}
    (hs : segment ∈ client.segments before) :
    printed 0 segment <:+: client.fileRows options before :=
  (printed_isInfix (h.tidy_segments before) hs).trans (List.suffix_append _ _).isInfix

/-- The file that declares an iterator imports the package of the type that it iterates over. -/
theorem Spelled.declaredIn (h : client.Spelled) (he : element ∈ newElements before client.elements)
    (hpage : Element.resolve catalog page = .ok element) :
    page.DeclaredIn catalog (client.outputFile options before).content := by
  have hmem : element ∈ client.elements := (newElements_sublist _ _).subset he
  have hsegment : element.declaration ∈ client.segments before :=
    List.mem_append_right _ (List.mem_map_of_mem he)
  have hinfix := h.infix_fileRows options hsegment
  obtain ⟨hstruct, hnext⟩ := (h.named_element hmem).rows_declaration
  rw [Element.resolve_iterator hpage] at hstruct hnext
  refine ⟨_, element.goType, content_eq_ofRows _ _ _, ?_, hstruct.trans hinfix, hinfix.subset hnext⟩
  cases page with
  | scalar goType stem =>
    cases hpage
    exact .scalar
  | message typeName =>
    obtain ⟨type, ht, rfl⟩ := Element.resolve_message_eq_ok_iff.mp hpage
    obtain ⟨row, hr, hi⟩ := Header.exists_shown (client.mem_imports_of_element hmem
      (List.mem_cons_of_mem _ List.mem_cons_self)) options none
    have hgoType : "*" ++ type.render = s!"*{type.spec.name}.{type.name}" := by
      rw [← String.toList_inj]
      simp [GoType.render, toString]
    dsimp only
    rw [hgoType]
    exact .message ht (List.mem_append_left _ hr) hi

end Client

namespace Run

variable {files : List File} {options : Options} {names before : List String} {clients : List Client}
  {client : Client} {element : Element} {page other : PageElement} {name : String}

def pages (files : List File) (names : List String) : List PageElement :=
  (requested files names).flatMap (Client.pages (.ofFiles files))

theorem exists_outputFile_of_mem (options : Options) (before : List String) (hc : client ∈ clients) :
    ∃ before', client.outputFile options before' ∈ outputFiles options before clients := by
  induction clients generalizing before with
  | nil => cases hc
  | cons first clients ih =>
    obtain rfl | hc := List.mem_cons.mp hc
    · exact ⟨before, List.mem_cons_self⟩
    · obtain ⟨before', hmem⟩ := ih _ hc
      exact ⟨before', List.mem_cons_of_mem _ hmem⟩

theorem exists_outputFile_of_mem_newElements (options : Options)
    (he : element ∈ newElements before (clients.flatMap elements)) :
    ∃ client ∈ clients, ∃ before',
      client.outputFile options before' ∈ outputFiles options before clients ∧
      element ∈ newElements before' client.elements := by
  induction clients generalizing before with
  | nil => cases he
  | cons first clients ih =>
    rw [List.flatMap_cons, newElements_append, List.mem_append] at he
    obtain he | he := he
    · exact ⟨first, List.mem_cons_self, before, List.mem_cons_self, he⟩
    · obtain ⟨client, hc, before', hmem, he⟩ := ih he
      exact ⟨client, List.mem_cons_of_mem _ hc, before', List.mem_cons_of_mem _ hmem, he⟩

theorem mem_files_of_run (h : Run.clients (.ofFiles files) options names = .ok clients)
    {output : OutputFile} (ho : output ∈ outputFiles options [] clients) :
    output ∈ (generateWith files names options).files := by
  have hne : clients ≠ [] := by
    rintro rfl
    cases ho
  have hfiles : (generateWith files names options).files = packageFiles options clients := by
    rw [generateWith, h]
  rw [hfiles, packageFiles, if_neg (by simpa using hne)]
  exact List.mem_append_left _ ho

theorem mem_pages_of_mem (h : Run.clients (.ofFiles files) options names = .ok clients)
    (hc : client ∈ clients) (hp : page ∈ Client.pages (.ofFiles files) client.service) :
    page ∈ pages files names := by
  refine List.mem_flatMap.mpr ⟨client.service, ?_, hp⟩
  rw [← map_service_clients h]
  exact List.mem_map_of_mem hc

/-- Each page element of a run is that of an element of some client. -/
theorem exists_element_of_mem_pages (h : Run.clients (.ofFiles files) options names = .ok clients)
    (hp : page ∈ pages files names) :
    ∃ client ∈ clients, ∃ element ∈ client.elements,
      Element.resolve (.ofFiles files) page = .ok element := by
  obtain ⟨service, hs, hp⟩ := List.mem_flatMap.mp hp
  rw [← map_service_clients h] at hs
  obtain ⟨client, hc, rfl⟩ := List.mem_map.mp hs
  obtain ⟨element, he, hpage⟩ := Except.exists_mem_of_forall₂ (forall₂_pages_of_run h hc).flip hp
  exact ⟨client, hc, element, he, hpage⟩

theorem exists_field_of_mem_pages (hp : page ∈ pages files names) :
    ∃ field, PageElement.ofField field = .ok page := by
  obtain ⟨_, _, hp⟩ := List.mem_flatMap.mp hp
  exact Client.exists_field_of_mem_pages hp

/-- All files of a run together declare an iterator that is needed once. -/
theorem count_iterator_items (hfiles : ∀ file ∈ files, file.HasNames) (hpkg : IsName options.pkgName)
    (h : Run.clients (.ofFiles files) options names = .ok clients) (hp : page ∈ pages files names) :
    (generateWith files names options).items.count (.global page.iteratorName) = 1 := by
  obtain ⟨client, hc, element, he, hpage⟩ := exists_element_of_mem_pages h hp
  have hne : clients ≠ [] := List.ne_nil_of_mem hc
  have hmem : page.iteratorName ∈ iterators (declared clients) := by
    rw [← Element.resolve_iterator hpage, ← List.count_pos_iff, count_declared hc he]
    exact Nat.one_pos
  rw [Item.count_global, (perm_globals hfiles hpkg h hne).count_eq, List.count_append,
    List.count_append, List.count_eq_zero_of_not_mem fun hg => disjoint_globals_iterators h hg hmem,
    List.count_eq_zero_of_not_mem (disjoint_iterators_doc h hmem), ← Element.resolve_iterator hpage,
    count_declared hc he]

/-- The file that declares an iterator has the type of some page element of the run that is iterated
over under this name. -/
theorem exists_declaredIn (hfiles : ∀ file ∈ files, file.HasNames)
    (h : Run.clients (.ofFiles files) options names = .ok clients) (hp : page ∈ pages files names) :
    ∃ other ∈ pages files names, other.iteratorName = page.iteratorName ∧
      ∃ output ∈ (generateWith files names options).files,
        other.DeclaredIn (.ofFiles files) output.content := by
  obtain ⟨client, hc, element, he, hpage⟩ := exists_element_of_mem_pages h hp
  have hmem : element.iterator ∈ iterators (declared clients) := by
    rw [← List.count_pos_iff, count_declared hc he]
    exact Nat.one_pos
  obtain ⟨new, hnew, hiterator⟩ := List.mem_map.mp hmem
  obtain ⟨client', hc', before, houtput, hnew⟩ :=
    exists_outputFile_of_mem_newElements options hnew
  obtain ⟨other, hother, hresolve⟩ := Except.exists_mem_of_forall₂ (forall₂_pages_of_run h hc')
    ((newElements_sublist _ _).subset hnew)
  refine ⟨other, mem_pages_of_mem h hc' hother, ?_, _, mem_files_of_run h houtput,
    (spelled_of_run hfiles h hc').declaredIn hnew hresolve⟩
  rw [← Element.resolve_iterator hresolve, hiterator, Element.resolve_iterator hpage]

/-- Iterators that are declared have the types of all page elements that they are returned for just
when no two page elements clash. -/
theorem types_eq_iff (hfiles : ∀ file ∈ files, file.HasNames)
    (h : Run.clients (.ofFiles files) options names = .ok clients) :
    (∀ page ∈ pages files names, ∀ other ∈ pages files names,
        other.iteratorName = page.iteratorName →
          ∀ output ∈ (generateWith files names options).files,
            other.DeclaredIn (.ofFiles files) output.content →
              other.type (.ofFiles files) = page.type (.ofFiles files)) ↔
      ∀ page ∈ pages files names, ∀ other ∈ pages files names,
        ¬ page.Clash (.ofFiles files) other := by
  constructor
  · intro htypes page hp other ho hclash
    obtain ⟨hname, hne⟩ := (PageElement.clash_iff (exists_field_of_mem_pages hp)
      (exists_field_of_mem_pages ho)).mp hclash
    -- the one declaration that both share has the type of each
    obtain ⟨third, hthird, hthirdName, output, houtput, hdeclared⟩ := exists_declaredIn hfiles h hp
    apply hne
    rw [← htypes page hp third hthird hthirdName output houtput hdeclared]
    exact htypes other ho third hthird (hthirdName.trans hname) output houtput hdeclared
  · intro hclash page hp other ho hname _ _ _
    by_contra hne
    exact hclash page hp other ho ((PageElement.clash_iff (exists_field_of_mem_pages hp)
      (exists_field_of_mem_pages ho)).mpr ⟨hname.symm, fun htype => hne htype.symm⟩)

def ReturnedIn (receiver method iterator text : String) : Prop :=
  ∃ (rows : List String) (params : String), text = ofRows rows ∧
    s!"func (c *{receiver}) {method}(ctx context.Context, {params}opts ...gax.CallOption) *{iterator} \x7b" ∈
      rows

/-- The signature of a paged method returns the iterator over what its pages hold. -/
theorem exists_returnedIn (hfiles : ∀ file ∈ files, file.HasNames)
    (h : Run.clients (.ofFiles files) options names = .ok clients) {service : Service}
    (hs : service ∈ requested files names) {method : Method} (hm : method ∈ service.methods)
    (hpage : page? (.ofFiles files) method = some page) :
    ∃ output ∈ (generateWith files names options).files,
      ReturnedIn (Naming.clientStem service.name options.pkgName ++ "Client") method.name
        page.iteratorName output.content := by
  rw [← map_service_clients h] at hs
  obtain ⟨client, hc, rfl⟩ := List.mem_map.mp hs
  have hspelled := spelled_of_run hfiles h hc
  obtain ⟨_, _, _, _, service, _, hr⟩ := exists_resolved h hc
  rw [hr.service_eq] at hm ⊢
  obtain ⟨call, hcall, hresolved⟩ := hr.exists_call hm
  obtain ⟨before, houtput⟩ := exists_outputFile_of_mem options [] hc
  have hsegment : client.method call ∈ client.segments before :=
    List.mem_cons_of_mem _ (List.mem_append_left _ (List.mem_map_of_mem hcall))
  have hrow := (hspelled.infix_fileRows options hsegment).subset
    (hspelled.signature_mem_printed hcall)
  have hrel := hresolved.rel_page?
  rw [hpage] at hrel
  have hresults : client.results call = s!"*{page.iteratorName}" := by
    rw [results]
    generalize call.exchange = exchange at hrel ⊢
    cases exchange with
    | paged request response element field =>
      cases hrel with
      | some helement => rw [← Element.resolve_iterator helement]
    | unary | acknowledged | longRunning | serverStream | clientStream => cases hrel
  rw [hresults, typeName, hr.stem_eq, hresolved.method_eq] at hrow
  refine ⟨_, mem_files_of_run h houtput, _, params call.exchange, content_eq_ofRows _ _ _, ?_⟩
  convert hrow using 1
  rw [← String.toList_inj]
  simp [toString]

/-- Each iterator that a method of a run returns is declared once in all files of the run, over the
type of a page element that is iterated over under its name. This type is that of all methods which
return the iterator just when no two page elements of the run clash. -/
theorem iterators_declared_once (hfiles : ∀ file ∈ files, file.HasNames)
    (hpkg : IsName options.pkgName) (h : (generateWith files names options).error = none) :
    (∀ service ∈ requested files names, ∀ method ∈ service.methods, ∀ page,
        page? (.ofFiles files) method = some page →
          (∃ output ∈ (generateWith files names options).files,
            ReturnedIn (Naming.clientStem service.name options.pkgName ++ "Client") method.name
              page.iteratorName output.content) ∧
          (generateWith files names options).items.count (.global page.iteratorName) = 1 ∧
          ∃ other ∈ pages files names, other.iteratorName = page.iteratorName ∧
            ∃ output ∈ (generateWith files names options).files,
              other.DeclaredIn (.ofFiles files) output.content) ∧
      ((∀ page ∈ pages files names, ∀ other ∈ pages files names,
          other.iteratorName = page.iteratorName →
            ∀ output ∈ (generateWith files names options).files,
              other.DeclaredIn (.ofFiles files) output.content →
                other.type (.ofFiles files) = page.type (.ofFiles files)) ↔
        ∀ page ∈ pages files names, ∀ other ∈ pages files names,
          ¬ page.Clash (.ofFiles files) other) := by
  obtain ⟨clients, hrun⟩ := error_generateWith_eq_none_iff.mp h
  refine ⟨fun service hs method hm page hpage => ?_, types_eq_iff hfiles hrun⟩
  have hp : page ∈ pages files names :=
    List.mem_flatMap.mpr ⟨service, hs, List.mem_filterMap.mpr ⟨method, hm, hpage⟩⟩
  exact ⟨exists_returnedIn hfiles hrun hs hm hpage, count_iterator_items hfiles hpkg hrun hp,
    exists_declaredIn hfiles hrun hp⟩

theorem iterators_declared_once_records :
    (∀ file ∈ libraryFiles "Record", file.HasNames) ∧ IsName libraryOptions.pkgName ∧
      (generateWith (libraryFiles "Record") ["library.proto"] libraryOptions).error = none ∧
      pages (libraryFiles "Record") ["library.proto"] =
        [.message ".library.Book", .message ".archive.Record"] ∧
      (generateWith (libraryFiles "Record") ["library.proto"] libraryOptions).items.count
        (.global "RecordIterator") = 1 ∧
      (∃ output ∈ (generateWith (libraryFiles "Record") ["library.proto"] libraryOptions).files,
        (PageElement.message ".archive.Record").DeclaredIn (.ofFiles (libraryFiles "Record"))
          output.content) ∧
      ∀ page ∈ pages (libraryFiles "Record") ["library.proto"],
        ∀ other ∈ pages (libraryFiles "Record") ["library.proto"],
          ¬ page.Clash (.ofFiles (libraryFiles "Record")) other := by
  have hfiles : ∀ file ∈ libraryFiles "Record", file.HasNames := by decide +kernel
  have hpkg : IsName libraryOptions.pkgName := by decide +kernel
  have hok :
      (generateWith (libraryFiles "Record") ["library.proto"] libraryOptions).error = none := by
    decide +kernel
  have hpages : pages (libraryFiles "Record") ["library.proto"] =
      [.message ".library.Book", .message ".archive.Record"] := by
    decide +kernel
  have hrecord : .message ".archive.Record" ∈ pages (libraryFiles "Record") ["library.proto"] := by
    rw [hpages]
    decide
  have hnames : ∀ page ∈ [PageElement.message ".library.Book", .message ".archive.Record"],
      ∀ other ∈ [PageElement.message ".library.Book", .message ".archive.Record"],
        other.iteratorName = page.iteratorName → other = page := by
    decide
  obtain ⟨service, hs, hrecord⟩ := List.mem_flatMap.mp hrecord
  obtain ⟨method, hm, hpage⟩ := List.mem_filterMap.mp hrecord
  obtain ⟨honce, htypes⟩ := iterators_declared_once hfiles hpkg hok
  obtain ⟨_, hcount, other, ho, hname, hdeclared⟩ := honce service hs method hm _ hpage
  refine ⟨hfiles, hpkg, hok, hpages, hcount, ?_, htypes.mp ?_⟩
  · rw [hpages] at ho
    rw [hnames _ (by decide) other ho hname] at hdeclared
    exact hdeclared
  · rw [hpages]
    intro page hp other ho hname _ _ _
    rw [hnames page hp other ho hname]

/-- A method that lists the books of an archive returns the iterator over those of the library,
which is declared once. -/
theorem iterator_declared_of_other_type :
    (∀ file ∈ libraryFiles "Book", file.HasNames) ∧
      ((libraryFiles "Book").flatMap fun file => file.declarations.map Prod.fst).Nodup ∧
      (generateWith (libraryFiles "Book") ["library.proto"] libraryOptions).error = none ∧
      (generateWith (libraryFiles "Book") ["library.proto"] libraryOptions).items.count
        (.global "BookIterator") = 1 ∧
      ∃ page ∈ pages (libraryFiles "Book") ["library.proto"],
        ∃ other ∈ pages (libraryFiles "Book") ["library.proto"],
          page.iteratorName = "BookIterator" ∧ other.iteratorName = "BookIterator" ∧
            (∃ output ∈ (generateWith (libraryFiles "Book") ["library.proto"] libraryOptions).files,
              other.DeclaredIn (.ofFiles (libraryFiles "Book")) output.content) ∧
            other.type (.ofFiles (libraryFiles "Book")) ≠
              page.type (.ofFiles (libraryFiles "Book")) := by
  have hfiles : ∀ file ∈ libraryFiles "Book", file.HasNames := by decide +kernel
  have hpkg : IsName libraryOptions.pkgName := by decide +kernel
  have hok : (generateWith (libraryFiles "Book") ["library.proto"] libraryOptions).error = none := by
    decide +kernel
  have hpages : pages (libraryFiles "Book") ["library.proto"] =
      [.message ".library.Book", .message ".archive.Book"] := by
    decide +kernel
  have htypes : (PageElement.message ".library.Book").type (.ofFiles (libraryFiles "Book")) ≠
      (PageElement.message ".archive.Book").type (.ofFiles (libraryFiles "Book")) := by
    decide +kernel
  have hlibrary : (PageElement.message ".library.Book").iteratorName = "BookIterator" := by decide
  have harchive : (PageElement.message ".archive.Book").iteratorName = "BookIterator" := by decide
  have hmem : PageElement.message ".library.Book" ∈ pages (libraryFiles "Book")
      ["library.proto"] := by
    rw [hpages]
    exact List.mem_cons_self
  obtain ⟨clients, hrun⟩ := error_generateWith_eq_none_iff.mp hok
  obtain ⟨other, ho, hname, hdeclared⟩ := exists_declaredIn hfiles hrun hmem
  have hcount := count_iterator_items hfiles hpkg hrun hmem
  rw [hlibrary] at hname hcount
  refine ⟨hfiles, by decide +kernel, hok, hcount, ?_⟩
  -- one of the two lists has pages of another type than the iterator
  by_cases htype : other.type (.ofFiles (libraryFiles "Book")) =
      (PageElement.message ".library.Book").type (.ofFiles (libraryFiles "Book"))
  · have hne := htypes
    rw [← htype] at hne
    refine ⟨.message ".archive.Book", ?_, other, ho, harchive, hname, hdeclared, hne⟩
    rw [hpages]
    exact List.mem_cons_of_mem _ List.mem_cons_self
  · exact ⟨_, hmem, other, ho, hlibrary, hname, hdeclared, htype⟩

end Run

end ClientGen
