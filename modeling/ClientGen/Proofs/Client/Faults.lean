import ClientGen.Proofs.Client.NamedTypes

namespace ClientGen

open Schema

section

variable {catalog : Catalog} {name : String} {file : File} {fault : Fault}

theorem Catalog.fault_of_message (h : catalog.message name = .error fault) :
    fault = .unknownType name ∨ ∃ label, fault = .wrongNode name label := by
  unfold Catalog.message at h
  split at h
  · cases h
  · cases h
    exact .inr ⟨_, rfl⟩
  · cases h
    exact .inl rfl

theorem ImportSpec.fault_of_ofFile (h : ImportSpec.ofFile file = .error fault) :
    fault = .noPackageHint file.name ∨ fault = .emptyImportPath file.name ∨
      ∃ path, fault = .noPackageName path file.name := by
  unfold ImportSpec.ofFile at h
  grind

theorem PageElement.fault_of_ofField {field : Field} (h : ofField field = .error fault) :
    fault = .enumPaging field.name ∨
      fault = .untypedField field.name ∧ field.kind = .message ∧ field.typeName = none := by
  unfold ofField at h
  cases hk : field.kind <;> cases ht : field.typeName <;> simp_all [FieldKind.scalar?]

theorem ClientImport.ofFile_eq_error (h : ClientImport.ofFile file = .error fault) :
    ImportSpec.ofFile file = .error fault := by
  obtain h | ⟨spec, _, h⟩ := Except.bind_eq_error_iff.mp h
  · exact h
  · cases h

theorem Catalog.fault_of_goType (h : catalog.goType name = .error fault) :
    catalog.elements.get? name = none ∧ fault = .undeclared name ∨
      ∃ owner, catalog.owningFile name = .ok owner ∧
        (ImportSpec.ofFile owner = .error fault ∨
          GoType.nameIn? owner name = none ∧ fault = .outsidePackage name owner.package) := by
  obtain h | ⟨owner, ho, h | ⟨_, _, hn, rfl⟩⟩ := Catalog.goType_eq_error_iff.mp h
  · unfold Catalog.owningFile at h
    cases hd : catalog.elements.get? name with
    | some declaration =>
      rw [hd] at h
      cases h
    | none =>
      rw [hd] at h
      cases h
      exact .inl ⟨rfl, rfl⟩
  · exact .inr ⟨owner, ho, .inl (ClientImport.ofFile_eq_error h)⟩
  · exact .inr ⟨owner, ho, .inr ⟨hn, rfl⟩⟩

/-- No element is outside its file's package if all declared names are segments. -/
theorem Catalog.nameIn?_ne_none {files : List File} {owner : File}
    (hfiles : ∀ file ∈ files, file.HasSegments)
    (h : (Catalog.ofFiles files).owningFile name = .ok owner) :
    GoType.nameIn? owner name ≠ none := by
  obtain ⟨node, hd⟩ := Catalog.owningFile_eq_ok_iff.mp h
  obtain ⟨hf, hm⟩ := Catalog.mem_of_get?_elements hd
  obtain ⟨goName, hn⟩ := GoType.exists_nameIn? (hfiles _ hf) hm
  simp [hn]

end

namespace Client

variable {catalog : Catalog} {options : Options} {file : File} {service : Service} {method : Method}
  {shape : CallShape} {name : String} {fault : Fault}

/-- Where the fault of a method of known shape comes from. -/
inductive MethodFault (catalog : Catalog) (method : Method) : Fault → Prop
  | type {name : String} {fault : Fault} (hn : NamesType catalog method name)
      (h : catalog.goType name = .error fault) : MethodFault catalog method fault
  | element {field : Field} {fault : Fault} (hs : shapeOf catalog method = .ok (.paged field))
      (h : PageElement.ofField field = .error fault) : MethodFault catalog method fault

theorem methodFault_of_resolve (hs : shapeOf catalog method = .ok shape)
    (h : Exchange.resolve catalog method shape = .error fault) :
    MethodFault catalog method fault := by
  cases shape with
  | unary =>
    obtain hreq | ⟨request, _, h⟩ := Except.bind_eq_error_iff.mp h
    · exact .type (.request hs (by simp) (by simp)) hreq
    · split at h
      · cases h
      · rename_i hne
        obtain hres | ⟨response, _, h⟩ := Except.bind_eq_error_iff.mp h
        · exact .type (.response hs hne) hres
        · cases h
  | longRunning =>
    obtain hreq | ⟨request, _, h⟩ := Except.bind_eq_error_iff.mp h
    · exact .type (.request hs (by simp) (by simp)) hreq
    · obtain hop | ⟨operation, _, h⟩ := Except.bind_eq_error_iff.mp h
      · exact .type (.operation hs) hop
      · cases h
  | serverStreaming =>
    obtain hreq | ⟨request, _, h⟩ := Except.bind_eq_error_iff.mp h
    · exact .type (.request hs (by simp) (by simp)) hreq
    · cases h
  | clientStreaming | bidiStreaming => cases h
  | paged field =>
    obtain hpage | ⟨page, hpage, h⟩ := Except.bind_eq_error_iff.mp h
    · exact .element hs hpage
    obtain hreq | ⟨request, _, h⟩ := Except.bind_eq_error_iff.mp h
    · exact .type (.request hs (by simp) (by simp)) hreq
    obtain hres | ⟨response, _, h⟩ := Except.bind_eq_error_iff.mp h
    · exact .type (.page hs) hres
    obtain helem | ⟨element, _, h⟩ := Except.bind_eq_error_iff.mp h
    · cases page with
      | scalar goType stem => cases helem
      | message typeName =>
        obtain ⟨hk, ht⟩ := PageElement.ofField_eq_ok_message_iff.mp hpage
        obtain htype | ⟨type, _, h⟩ := Except.bind_eq_error_iff.mp helem
        · exact .type (.element hs hk ht) htype
        · cases h
    · cases h

inductive ServiceFault (catalog : Catalog) (file : File) (service : Service) : Fault → Prop
  | input {method : Method} {fault : Fault} (hm : method ∈ service.methods)
      (h : catalog.message method.inputType = .error fault) :
      ServiceFault catalog file service fault
  | output {method : Method} {fault : Fault} (hm : method ∈ service.methods)
      (h : catalog.message method.outputType = .error fault) :
      ServiceFault catalog file service fault
  | shape {method : Method} {input output : Message} {fault : Fault} (hm : method ∈ service.methods)
      (h : CallShape.classify method input output = .error fault) :
      ServiceFault catalog file service fault
  | host (h : service.defaultHost = none) :
      ServiceFault catalog file service (.noDefaultHost (service.fullName file))
  | package {fault : Fault} (h : ImportSpec.ofFile file = .error fault) :
      ServiceFault catalog file service fault
  | method {method : Method} {fault : Fault} (hm : method ∈ service.methods)
      (h : MethodFault catalog method fault) : ServiceFault catalog file service fault

theorem serviceFault_of_resolve (h : resolve catalog options file service = .error fault) :
    ServiceFault catalog file service fault := by
  obtain h | ⟨shaped, hshaped, h⟩ := Except.bind_eq_error_iff.mp h
  · obtain ⟨method, hm, h⟩ := Except.exists_mem_of_mapM_eq_error h
    obtain h | ⟨shape, _, h⟩ := Except.bind_eq_error_iff.mp h
    · obtain h | ⟨input, hi, h⟩ := Except.bind_eq_error_iff.mp h
      · exact .input hm h
      obtain h | ⟨output, ho, h⟩ := Except.bind_eq_error_iff.mp h
      · exact .output hm h
      · exact .shape hm h
    · cases h
  cases hhost : service.defaultHost with
  | none =>
    rw [hhost] at h
    cases h
    exact .host hhost
  | some host =>
    rw [hhost] at h
    obtain h | ⟨stub, _, h⟩ := Except.bind_eq_error_iff.mp h
    · exact .package (ClientImport.ofFile_eq_error h)
    obtain h | ⟨calls, _, h⟩ := Except.bind_eq_error_iff.mp h
    · obtain ⟨⟨method, shape⟩, hm, h⟩ := Except.exists_mem_of_mapM_eq_error h
      obtain ⟨method', hm', h'⟩ := Except.exists_mem_of_forall₂ (Except.mapM_eq_ok_iff.mp hshaped) hm
      obtain ⟨shape', hs, h'⟩ := Except.bind_eq_ok_iff.mp h'
      cases h'
      obtain h | ⟨exchange, _, h⟩ := Except.bind_eq_error_iff.mp h
      · exact .method hm' (methodFault_of_resolve hs h)
      · cases h
    · cases h

theorem not_serviceFault_outsidePackage {files : List File} {package : String}
    (hfiles : ∀ file ∈ files, file.HasSegments) :
    ¬ ServiceFault (.ofFiles files) file service (.outsidePackage name package) := by
  intro h
  cases h with
  | input _ h | output _ h => simpa using Catalog.fault_of_message h
  | shape _ h => simpa using CallShape.fault_of_classify h
  | package h => simpa using ImportSpec.fault_of_ofFile h
  | method _ h =>
    cases h with
    | element _ h => simpa using PageElement.fault_of_ofField h
    | type _ h =>
      obtain ⟨_, h⟩ | ⟨owner, ho, h | ⟨hn, _⟩⟩ := Catalog.fault_of_goType h
      · cases h
      · simpa using ImportSpec.fault_of_ofFile h
      · exact Catalog.nameIn?_ne_none hfiles ho hn

end Client

namespace Run

variable {catalog : Catalog} {options : Options} {name : String} {fault : Fault}

/-- A file that exists fails with one of its services. -/
theorem fault_of_clientsOf (h : clientsOf catalog options name = .error fault) :
    catalog.file? name = none ∧ fault = .unknownFile name ∨
      ∃ file, catalog.file? name = some file ∧
        ∃ service ∈ file.services, Client.ServiceFault catalog file service fault := by
  unfold clientsOf at h
  cases hf : catalog.file? name with
  | none =>
    rw [hf] at h
    cases h
    exact .inl ⟨rfl, rfl⟩
  | some file =>
    rw [hf] at h
    obtain ⟨service, hs, h⟩ := Except.exists_mem_of_mapM_eq_error h
    exact .inr ⟨file, rfl, service, hs, Client.serviceFault_of_resolve h⟩

end Run

end ClientGen
