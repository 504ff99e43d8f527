import ClientGen.Proofs.Catalog.Names
import ClientGen.Proofs.Client.Imports
import ClientGen.Proofs.Client.Iterators
import ClientGen.Proofs.Text.Names

namespace ClientGen

open Schema Text

/-- Whether all names that a file declares, and the name of its Go package, are identifiers. -/
structure Schema.File.HasNames (file : File) : Prop where
  package : IsPath file.package
  declared : ∀ entry ∈ file.declarations, IsName entry.2.name
  goPackage : ∀ spec ∈ (ClientImport.ofFile file).toOption, IsName spec.name

instance (file : File) : Decidable file.HasNames :=
  decidable_of_iff (IsPath file.package ∧ (∀ entry ∈ file.declarations, IsName entry.2.name) ∧
      ∀ spec ∈ (ClientImport.ofFile file).toOption, IsName spec.name)
    ⟨fun ⟨hp, hd, hg⟩ => ⟨hp, hd, hg⟩, fun ⟨hp, hd, hg⟩ => ⟨hp, hd, hg⟩⟩

structure GoType.Named (type : GoType) : Prop where
  spec : IsName type.spec.name
  name : IsName type.name

structure Element.Named (element : Element) : Prop where
  iterator : IsName element.iterator
  goType : (∃ type : GoType, type.Named ∧ element.goType = "*" ++ type.render) ∨
    element.goType ∈ PageElement.scalars.map Prod.fst
  imports : ∀ spec ∈ element.imports, IsName spec.name

def Exchange.Named : Exchange → Prop
  | .unary request response => request.Named ∧ response.Named
  | .acknowledged request | .serverStream request => request.Named
  | .longRunning request operation => request.Named ∧ operation.Named
  | .clientStream => True
  | .paged request response element _ => request.Named ∧ response.Named ∧ element.Named

structure Client.Named (client : Client) : Prop where
  service : IsName client.service.name
  fullName : IsPath client.fullName
  methods : ∀ method ∈ client.service.methods, IsName method.name
  stub : IsName client.stub.name
  exchanges : ∀ call ∈ client.calls, call.exchange.Named

variable {file : File} {files : List File} {scope name : String} {message : Message}
  {entry : String × Node}

theorem isPath_memberName (hscope : IsPath scope) (hname : IsName name) :
    IsPath (memberName scope name) := by
  intro c hc
  simp only [memberName, String.toList_append, List.mem_append] at hc
  obtain (hc | hc) | hc := hc
  · exact hscope c hc
  · right
    simpa using hc
  · exact .inl (hname.2 c hc)

theorem isPath_of_mem_messageDeclarations (hscope : IsPath scope)
    (hnames : ∀ entry ∈ messageDeclarations scope message, IsName entry.2.name)
    (h : entry ∈ messageDeclarations scope message) : IsPath entry.1 := by
  induction message using Message.nesting generalizing scope with
  | step message ih =>
    have hmessage : IsPath (memberName scope message.name) :=
      isPath_memberName hscope (hnames _ (mem_messageDeclarations_self scope message))
    rw [messageDeclarations_eq] at h hnames
    simp only [List.mem_append, List.mem_map, List.mem_flatMap, List.mem_singleton] at h hnames
    have hname := hnames entry h
    obtain ((⟨field, _, rfl⟩ | ⟨inner, hi, h⟩) | h) | rfl := h
    · exact isPath_memberName hmessage hname
    · exact ih inner hi hmessage
        (fun entry he => hnames entry (.inl (.inl (.inr ⟨inner, hi, he⟩)))) h
    · obtain ⟨enum, _, rfl⟩ := List.mem_map.mp h
      exact isPath_memberName hmessage hname
    · exact hmessage

namespace Schema.File

theorem HasNames.isPath_scope (h : file.HasNames) : IsPath file.scope := by
  intro c hc
  rw [File.scope, scopeOfPackage] at hc
  split at hc
  · cases hc
  · rw [String.toList_append, List.mem_append] at hc
    exact hc.elim (fun hc => .inr (by simpa using hc)) (h.package c)

/-- Full names of elements are names with dots between them. -/
theorem HasNames.isPath (h : file.HasNames) (he : entry ∈ file.declarations) : IsPath entry.1 := by
  have hname := h.declared entry he
  have hservice {service : Service} (hs : service ∈ file.services) : IsPath (service.fullName file) :=
    isPath_memberName h.isPath_scope (h.declared _ (service_mem_declarations hs))
  obtain ⟨message, hm, hentry⟩ | hentry | ⟨service, hs, hentry⟩ := mem_declarations.mp he
  · refine isPath_of_mem_messageDeclarations h.isPath_scope (fun entry he => ?_) hentry
    exact h.declared entry (mem_declarations.mpr (.inl ⟨message, hm, he⟩))
  · obtain ⟨enum, _, rfl⟩ := List.mem_map.mp hentry
    exact isPath_memberName h.isPath_scope hname
  · rw [serviceDeclarations, List.mem_append, List.mem_map, List.mem_singleton] at hentry
    obtain ⟨method, _, rfl⟩ | rfl := hentry
    · exact isPath_memberName (hservice hs) hname
    · exact hservice hs

end Schema.File

theorem GoType.isName_of_nameIn? {fullName : String} (h : IsPath fullName)
    (hn : nameIn? file fullName = some name) : IsName name := by
  obtain ⟨rest, hafter, hn⟩ := Option.bind_eq_some_iff.mp hn
  have hrest : IsPath (dropLeading '.' rest) := by
    intro c hc
    rw [dropLeading, String.toList_ofList] at hc
    rw [after?, Option.map_eq_some_iff] at hafter
    obtain ⟨tail, htail, rfl⟩ := hafter
    rw [String.toList_ofList] at hc
    have hsuffix := (List.isPrefixOf?_eq_some_iff_append_eq.mp htail).symm
    refine h c ?_
    rw [hsuffix]
    exact List.mem_append_right _ ((List.dropWhile_suffix _).subset hc)
  dsimp only at hn
  split at hn
  · cases hn
  · rename_i hne
    rw [Option.some_inj] at hn
    rw [← hn]
    refine ⟨?_, fun c hc => ?_⟩
    · intro hempty
      rw [← String.toList_eq_nil_iff, String.toList_ofList, List.map_eq_nil_iff,
        String.toList_eq_nil_iff] at hempty
      exact hne (by rw [hempty]; rfl)
    · rw [String.toList_ofList, List.mem_map] at hc
      obtain ⟨d, hd, rfl⟩ := hc
      split
      · simp [isNamePart]
      · exact (hrest d hd).resolve_right ‹_›

variable {type : GoType} {element : Element} {page : PageElement} {method : Method}
  {shape : CallShape}
  {exchange : Exchange} {options : Options} {service : Service} {client : Client}

theorem Catalog.named_of_goType (hfiles : ∀ file ∈ files, file.HasNames)
    (h : (ofFiles files).goType name = .ok type) : type.Named ∧ IsPath name := by
  obtain ⟨file, howner, hspec, hname⟩ := goType_eq_ok_iff.mp h
  obtain ⟨node, hget⟩ := owningFile_eq_ok_iff.mp howner
  obtain ⟨hf, hd⟩ := mem_of_get?_elements hget
  have hpath : IsPath name := (hfiles _ hf).isPath hd
  refine ⟨⟨(hfiles _ hf).goPackage _ ?_, GoType.isName_of_nameIn? hpath hname⟩, hpath⟩
  rw [hspec]
  rfl

theorem PageElement.isNamePart_of_mem_simpleName (h : IsPath name) :
    ∀ c ∈ (simpleName name).toList, isNamePart c := by
  intro c hc
  rw [simpleName, String.toList_ofList] at hc
  cases hl : (name.toList.splitOn '.').getLast? with
  | none =>
    rw [hl] at hc
    cases hc
  | some piece =>
    rw [hl] at hc
    have hp := List.mem_of_getLast? hl
    have hdot : c ≠ '.' := fun hdot => notMem_of_mem_splitOn hp (hdot ▸ hc)
    exact (h c (mem_of_mem_splitOn hp hc)).resolve_right hdot

theorem PageElement.isName_iterator : ∀ scalar ∈ scalars, IsName (scalar.2 ++ "Iterator") := by
  decide

theorem Element.named_of_resolve (hfiles : ∀ file ∈ files, file.HasNames)
    (hpage : ∃ field, PageElement.ofField field = .ok page)
    (h : Element.resolve (.ofFiles files) page = .ok element) : element.Named := by
  cases page with
  | message typeName =>
    obtain ⟨type, ht, rfl⟩ := Element.resolve_message_eq_ok_iff.mp h
    obtain ⟨hnamed, hpath⟩ := Catalog.named_of_goType hfiles ht
    have hiterator : IsName (PageElement.simpleName typeName ++ "Iterator") :=
      (IsName.ofList (by decide)).prepend (PageElement.isNamePart_of_mem_simpleName hpath)
    exact ⟨hiterator, .inl ⟨type, hnamed, rfl⟩, by simpa using hnamed.spec⟩
  | scalar goType stem =>
    obtain ⟨field, hfield⟩ := hpage
    have hscalar := PageElement.mem_scalars_of_ofField hfield
    cases h
    exact ⟨PageElement.isName_iterator _ hscalar, .inr (List.mem_map_of_mem hscalar), by simp⟩

theorem Exchange.named_of_resolved (hfiles : ∀ file ∈ files, file.HasNames)
    (h : Resolved (.ofFiles files) method shape exchange) : exchange.Named := by
  have htype {name : String} {type : GoType} (ht : (Catalog.ofFiles files).goType name = .ok type) :
      type.Named := (Catalog.named_of_goType hfiles ht).1
  cases h with
  | unary hreq _ hres => exact ⟨htype hreq, htype hres⟩
  | acknowledged hreq => exact htype hreq
  | longRunning hreq hop => exact ⟨htype hreq, htype hop⟩
  | serverStream hreq => exact htype hreq
  | clientStream | bidiStream => trivial
  | paged hpage hreq hres helem =>
    exact ⟨htype hreq, htype hres, Element.named_of_resolve hfiles ⟨_, hpage⟩ helem⟩

theorem Exchange.Named.isName_of_mem_typeImports (h : exchange.Named) {spec : ImportSpec}
    (hs : spec ∈ exchange.typeImports) : IsName spec.name := by
  cases exchange with
  | unary request response | longRunning request response =>
    simp only [typeImports, List.mem_cons, List.not_mem_nil, or_false] at hs
    obtain rfl | rfl := hs
    · exact h.1.spec
    · exact h.2.spec
  | acknowledged request | serverStream request =>
    rw [typeImports, List.mem_singleton] at hs
    rw [hs]
    exact h.spec
  | clientStream => cases hs
  | paged request response element field =>
    simp only [typeImports, List.mem_cons] at hs
    obtain rfl | rfl | hs := hs
    · exact h.1.spec
    · exact h.2.1.spec
    · exact h.2.2.imports spec hs

theorem ClientImport.name_of_mem_all : ∀ spec ∈ all, spec.name = "" ∨ IsName spec.name := by
  decide

namespace Client

theorem Named.name_of_mem_imports (h : client.Named) {spec : ImportSpec}
    (hs : spec ∈ client.imports.specs) : spec.name = "" ∨ IsName spec.name := by
  obtain hs | hs := mem_imports.mp hs
  · exact ClientImport.name_of_mem_all spec (client.ownImports_subset hs)
  · obtain rfl | hs := List.mem_cons.mp hs
    · exact .inr h.stub
    · obtain ⟨call, hc, hs⟩ := List.mem_flatMap.mp hs
      exact .inr ((h.exchanges call hc).isName_of_mem_typeImports hs)

structure Spelled (client : Client) : Prop extends client.Named where
  stem : ∀ c ∈ client.stem.toList, isNamePart c
  calls : ∀ call ∈ client.calls, IsName call.method.name

theorem Resolved.spelled {catalog : Catalog} (h : Resolved catalog options file service client)
    (hn : client.Named) : client.Spelled := by
  refine ⟨hn, fun c hc => ?_, fun call hc => ?_⟩
  · rw [h.stem_eq, Naming.clientStem] at hc
    split at hc
    · cases hc
    · rw [← h.service_eq] at hc
      cases hb : before? "Service" client.service.name with
      | none =>
        rw [hb] at hc
        exact hn.service.2 c hc
      | some stem =>
        rw [hb] at hc
        obtain ⟨l, hl, rfl⟩ := Option.map_eq_some_iff.mp hb
        rw [Option.getD_some, String.toList_ofList] at hc
        refine hn.service.2 c ?_
        rw [← List.isSuffixOf?_eq_some_iff_append_eq.mp hl]
        exact List.mem_append_left _ hc
  · obtain ⟨method, hm, hcall⟩ := h.exists_method hc
    rw [hcall.method_eq]
    rw [← h.service_eq] at hm
    exact hn.methods method hm

theorem Resolved.named (h : Resolved (.ofFiles files) options file service client)
    (hfiles : ∀ file ∈ files, file.HasNames) (hf : file ∈ files) (hs : service ∈ file.services) :
    client.Named := by
  have hfile := hfiles file hf
  have hservice := hfile.declared _ (File.service_mem_declarations hs)
  have hpath := hfile.isPath (File.service_mem_declarations hs)
  refine ⟨?_, ?_, ?_, ?_, ?_⟩
  · rw [h.service_eq]
    exact hservice
  · rw [h.fullName_eq]
    exact hpath
  · rw [h.service_eq]
    intro method hm
    have hmethod := hfile.declared _ (File.method_mem_declarations hs hm)
    exact hmethod
  · refine hfile.goPackage client.stub ?_
    rw [h.stub_eq]
    rfl
  · intro call hc
    obtain ⟨_, _, hcall⟩ := h.exists_method hc
    obtain ⟨_, _, he⟩ := hcall.exchange_eq
    exact Exchange.named_of_resolved hfiles (Exchange.resolved_of_resolve he)

end Client

end ClientGen
