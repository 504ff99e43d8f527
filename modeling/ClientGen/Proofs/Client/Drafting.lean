import ClientGen.Proofs.Client.Nesting
import ClientGen.Proofs.Run.InTurn

namespace ClientGen

open Schema MonadExcept

def Draft.require (draft : Draft) (spec : ImportSpec) : Draft :=
  { draft with imports := draft.imports.insert spec }

/-- Work on a draft that may fail. What was done before a failure stays. -/
abbrev Drafting := EStateM Fault Draft

namespace Drafting

def goType (catalog : Catalog) (fullName : String) : Drafting GoType := do
  let file ← ofExcept (catalog.owningFile fullName)
  let spec ← ofExcept (ClientImport.ofFile file)
  let some name := GoType.nameIn? file fullName | throw (.outsidePackage fullName file.package)
  modify (·.require spec)
  return ⟨spec, name⟩

def element (catalog : Catalog) (page : PageElement) : Drafting Element :=
  match page with
  | .message typeName => do
    let type ← goType catalog typeName
    return ⟨page.iteratorName, "*" ++ type.render, [type.spec]⟩
  | .scalar goType _ => return ⟨page.iteratorName, goType, []⟩

def exchange (catalog : Catalog) (method : Method) : CallShape → Drafting Exchange
  | .unary => do
    let request ← goType catalog method.inputType
    if method.outputType = emptyType then return .acknowledged request
    return .unary request (← goType catalog method.outputType)
  | .longRunning => do
    modify (·.require ClientImport.longrunning)
    let request ← goType catalog method.inputType
    return .longRunning request (← goType catalog operationType)
  | .serverStreaming => return .serverStream (← goType catalog method.inputType)
  | .clientStreaming | .bidiStreaming => return .clientStream
  | .paged field => do
    let page ← ofExcept (PageElement.ofField field)
    modify (·.require ClientImport.math |>.require ClientImport.proto |>.require
      ClientImport.iterator)
    let request ← goType catalog method.inputType
    let response ← goType catalog method.outputType
    return .paged request response (← element catalog page) field.name

def call (catalog : Catalog) (method : Method) : Drafting Exchange := do
  exchange catalog method (← ofExcept (Client.shapeOf catalog method))

variable {catalog : Catalog} {name : String} {draft : Draft} {type : GoType} {fault : Fault}
  {method : Method}

theorem run_goType_of_ok (h : catalog.goType name = .ok type) :
    (goType catalog name).run draft = .ok type (draft.require type.spec) := by
  obtain ⟨file, hf, hs, hn⟩ := Catalog.goType_eq_ok_iff.mp h
  rw [goType, hf]
  simp only [ofExcept, pure_bind, hs, hn]
  rfl

/-- A lookup that fails leaves the draft as it is. -/
theorem run_goType_of_error (h : catalog.goType name = .error fault) :
    (goType catalog name).run draft = .error fault draft := by
  obtain hf | ⟨file, hf, hs | ⟨spec, hs, hn, rfl⟩⟩ := Catalog.goType_eq_error_iff.mp h
  · rw [goType, hf]
    rfl
  · rw [goType, hf]
    simp only [ofExcept, pure_bind, hs]
    rfl
  · rw [goType, hf]
    simp only [ofExcept, pure_bind, hs, hn]
    rfl

theorem run_element_of_ok {page : PageElement} {found : Element}
    (h : Element.resolve catalog page = .ok found) :
    (element catalog page).run draft = .ok found (found.imports.foldl Draft.require draft) := by
  cases page with
  | message typeName =>
    obtain ⟨type, ht, rfl⟩ := Element.resolve_message_eq_ok_iff.mp h
    simp only [element, EStateM.run_bind, run_goType_of_ok ht]
    rfl
  | scalar goType stem =>
    cases h
    rfl

theorem run_exchange_of_ok {shape : CallShape} {found : Exchange}
    (h : Exchange.resolve catalog method shape = .ok found) :
    (exchange catalog method shape).run draft =
    .ok found (found.imports.foldl Draft.require draft) := by
  cases Exchange.resolve_eq_ok_iff.mp h with
  | unary hreq hne hres =>
    simp only [exchange, EStateM.run_bind, run_goType_of_ok hreq, if_neg hne, run_goType_of_ok hres]
    rfl
  | acknowledged hreq he =>
    simp only [exchange, EStateM.run_bind, run_goType_of_ok hreq, if_pos he]
    rfl
  | longRunning hreq hop =>
    simp only [exchange, EStateM.run_bind, run_goType_of_ok hreq, run_goType_of_ok hop]
    rfl
  | serverStream hreq =>
    simp only [exchange, EStateM.run_bind, run_goType_of_ok hreq]
    rfl
  | clientStream | bidiStream => rfl
  | paged hpage hreq hres helem =>
    rw [exchange, hpage]
    change (goType catalog method.inputType >>= _).run (List.foldl Draft.require draft
      [ClientImport.math, ClientImport.proto, ClientImport.iterator]) = _
    simp only [EStateM.run_bind, run_goType_of_ok hreq, run_goType_of_ok hres,
      run_element_of_ok helem, Exchange.imports, List.foldl_append]
    rfl

theorem run_call_of_ok {serviceName : String} {found : Call}
    (h : Client.ResolvedCall catalog serviceName method found) :
    (call catalog method).run draft =
      .ok found.exchange (found.exchange.imports.foldl Draft.require draft) := by
  obtain ⟨shape, hshape, hexchange⟩ := h.exchange_eq
  rw [call, hshape]
  exact run_exchange_of_ok hexchange

theorem run_calls_of_ok {serviceName : String} {methods : List Method} {calls : List Call}
    (h : List.Forall₂ (Client.ResolvedCall catalog serviceName) methods calls) :
    (methods.mapM (call catalog)).run draft =
      .ok (calls.map (·.exchange)) ((calls.flatMap (·.exchange.imports)).foldl
        Draft.require draft) := by
  induction h generalizing draft with
  | nil => rfl
  | cons hcall _ ih =>
    simp only [List.mapM_cons, EStateM.run_bind, run_call_of_ok hcall, ih]
    rw [List.map_cons, List.flatMap_cons, List.foldl_append]
    rfl

theorem foldl_require (specs : List ImportSpec) :
    specs.foldl Draft.require draft =
      { draft with imports := specs.foldl .insert draft.imports } := by
  induction specs generalizing draft with
  | nil => rfl
  | cons spec specs ih => exact ih

/-- A client imports what the lookups for its methods import one after the other. -/
theorem run_calls_of_resolved {options : Options} {file : File} {service : Service} {client : Client}
    (h : Client.Resolved catalog options file service client) (code : Code) :
    (service.methods.mapM (call catalog)).run ⟨.ofList client.scaffoldImports, code⟩ =
      .ok (client.calls.map (·.exchange)) ⟨client.imports, code⟩ := by
  rw [run_calls_of_ok h.calls_eq, foldl_require, Client.imports, ImportSet.ofList, ImportSet.ofList,
    List.foldl_append]

theorem eq_of_run_goType_eq_error {draft' : Draft}
    (h : (goType catalog name).run draft = .error fault draft') : draft' = draft := by
  cases hfound : catalog.goType name with
  | ok type =>
    rw [run_goType_of_ok hfound] at h
    cases h
  | error fault' =>
    rw [run_goType_of_error hfound] at h
    cases h
    rfl

/-- The Go type of an element, nested as it may be, is that of its simple names in the package of
its file. Looking it up imports this package and changes nothing else, and a lookup that fails
changes nothing. -/
theorem goType_joins_names {files : List File}
    (helements : (files.flatMap (·.declarations.map Prod.fst)).Nodup)
    (hsegments : ∀ file ∈ files, file.HasSegments) (draft : Draft) :
    (∀ file ∈ files, ∀ place names node, file.Holds place names node →
      (∀ spec, ClientImport.ofFile file = .ok spec →
        ∃ type, type.render = spec.name ++ "." ++ "_".intercalate names ∧
          (goType (.ofFiles files) (fullName file.package names)).run draft =
            .ok type { draft with imports := draft.imports.insert spec } ∧
          ∀ other, other ∈ (draft.imports.insert spec).specs ↔ other = spec ∨
            other ∈ draft.imports.specs) ∧
      ∀ fault, ImportSpec.ofFile file = .error fault →
        (goType (.ofFiles files) (fullName file.package names)).run draft = .error fault draft) ∧
    ∀ name fault draft', (goType (.ofFiles files) name).run draft = .error fault draft' →
      draft' = draft := by
  refine ⟨fun file hf place names node h => ?_, fun _ _ _ => eq_of_run_goType_eq_error⟩
  have htype := Catalog.goType_of_holds helements hf (hsegments file hf) h
  refine ⟨fun spec hspec => ?_, fun fault hfault => ?_⟩
  · rw [hspec] at htype
    exact ⟨_, rfl, run_goType_of_ok htype, fun _ => ImportSet.mem_insert⟩
  · have hfile : ClientImport.ofFile file = .error fault := Except.bind_eq_error_iff.mpr (.inl hfault)
    rw [hfile] at htype
    exact run_goType_of_error htype

def shelvesFile : File where
  name := "library.proto"
  package := "library"
  goPackage := some "example.com/library;librarypb"
  messages := [{ name := "v1", messages := [{ name := "Shelf", enums := [{ name := "Kind" }] }] }]

def booksFile : File where
  name := "books.proto"
  package := "library.v1"
  goPackage := some "example.com/library/metadata"
  messages := [{ name := "Book", messages := [{ name := "Chapter" }] }]

/-- A message may be called like a package, and a package of types like an import of the client. -/
theorem goType_joins_names_library :
    ([shelvesFile, booksFile].flatMap (·.declarations.map Prod.fst)).Nodup ∧
      (∀ file ∈ [shelvesFile, booksFile], file.HasSegments) ∧
      (∃ type, type.render = "librarypb.v1_Shelf_Kind" ∧
        (goType (.ofFiles [shelvesFile, booksFile]) ".library.v1.Shelf.Kind").run ⟨.empty, []⟩ =
          .ok type ⟨ImportSet.empty.insert ⟨"librarypb", "example.com/library"⟩, []⟩) ∧
      ∃ type, type.render = "metadatapb.Book_Chapter" ∧
        (goType (.ofFiles [shelvesFile, booksFile]) ".library.v1.Book.Chapter").run ⟨.empty, []⟩ =
          .ok type ⟨ImportSet.empty.insert ⟨"metadatapb", "example.com/library/metadata"⟩, []⟩ := by
  have helements : ([shelvesFile, booksFile].flatMap (·.declarations.map Prod.fst)).Nodup := by
    decide +kernel
  have hsegments : ∀ file ∈ [shelvesFile, booksFile], file.HasSegments := by decide +kernel
  obtain ⟨hfound, _⟩ := goType_joins_names helements hsegments ⟨.empty, []⟩
  have hkind :
      shelvesFile.Holds [0, 0, 1, 0, 2, 0] ["v1", "Shelf", "Kind"] (.enum { name := "Kind" }) :=
    .message rfl (.nested rfl (@Message.Holds.enum _ _ { name := "Kind" } rfl))
  have hchapter :
      booksFile.Holds [0, 0, 1, 0, 3] ["Book", "Chapter"] (.message { name := "Chapter" }) :=
    .message rfl (.nested rfl .itself)
  refine ⟨helements, hsegments, ?_, ?_⟩
  · obtain ⟨type, hrender, hrun, _⟩ :=
      (hfound _ (by simp) _ _ _ hkind).1 ⟨"librarypb", "example.com/library"⟩ (by decide +kernel)
    exact ⟨type, hrender, hrun⟩
  · obtain ⟨type, hrender, hrun, _⟩ :=
      (hfound _ (by simp) _ _ _ hchapter).1
        ⟨"metadatapb", "example.com/library/metadata"⟩ (by decide +kernel)
    exact ⟨type, hrender, hrun⟩

end Drafting

end ClientGen
