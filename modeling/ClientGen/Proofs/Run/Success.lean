import ClientGen.Proofs.Client.Faults
import ClientGen.Proofs.Client.Iterators

namespace ClientGen

open Schema Client

namespace Client

/-- What a service and the files around it must be like for its client to be generated. -/
structure Generable (files : List File) (file : File) (service : Service) : Prop where
  messages : ∀ method ∈ service.methods,
    (∃ input, (Catalog.ofFiles files).message method.inputType = .ok input) ∧
      ∃ output, (Catalog.ofFiles files).message method.outputType = .ok output
  /-- The pages of a method whose messages carry page tokens are in one field. -/
  pages : ∀ method ∈ service.methods, method.outputType ≠ operationType → ∀ input output,
    (Catalog.ofFiles files).message method.inputType = .ok input →
      (Catalog.ofFiles files).message method.outputType = .ok output →
        CallShape.CarriesTokens input output → output.repeatedFields.length = 1
  host : ∃ host, service.defaultHost = some host
  package : ∃ spec, ImportSpec.ofFile file = .ok spec
  elements : ∀ method ∈ service.methods, ∀ field,
    shapeOf (.ofFiles files) method = .ok (.paged field) →
      field.kind ≠ .enum ∧ (field.kind = .message → ∃ typeName, field.typeName = some typeName ∧
        ∃ other ∈ files, ∃ node, (typeName, node) ∈ other.declarations)
  types : ∀ method ∈ service.methods, ∀ name, NamesType (.ofFiles files) method name → ∀ owner,
    (Catalog.ofFiles files).owningFile name = .ok owner → ∃ spec, ImportSpec.ofFile owner = .ok spec

variable {catalog : Catalog} {options : Options} {file : File} {service : Service} {files : List File}
  {method : Method} {name : String}

theorem exists_resolved_iff :
    (∃ client, Resolved catalog options file service client) ↔
      (∃ host, service.defaultHost = some host) ∧ (∃ spec, ClientImport.ofFile file = .ok spec) ∧
        ∀ method ∈ service.methods, ∃ shape, shapeOf catalog method = .ok shape ∧
          ∃ exchange, Exchange.Resolved catalog method shape exchange := by
  constructor
  · rintro ⟨client, h⟩
    refine ⟨⟨_, h.host_eq⟩, ⟨_, h.stub_eq⟩, fun method hm => ?_⟩
    obtain ⟨call, _, hc⟩ := Except.exists_mem_of_forall₂ h.calls_eq.flip hm
    obtain ⟨shape, hs, he⟩ := hc.exchange_eq
    exact ⟨shape, hs, _, Exchange.resolved_of_resolve he⟩
  · rintro ⟨⟨host, hhost⟩, ⟨stub, hstub⟩, hmethods⟩
    have hcalls : ∀ method ∈ service.methods, ∃ call,
        ResolvedCall catalog (service.fullName file) method call := by
      intro method hm
      obtain ⟨shape, hs, exchange, he⟩ := hmethods method hm
      exact ⟨⟨method, _, exchange⟩, rfl, rfl, shape, hs, Exchange.resolve_of_resolved he⟩
    obtain ⟨calls, hcalls⟩ := Except.exists_forall₂_iff_forall_exists.mpr hcalls
    exact ⟨{ service, host, stub, calls, .. }, rfl, rfl, rfl, hhost, hstub, rfl, hcalls⟩

/-- If all declared names are segments, the Go type of a declared element exists as soon as its file
tells a package. -/
theorem exists_goType_iff (hfiles : ∀ file ∈ files, file.HasSegments) :
    (∃ type, (Catalog.ofFiles files).goType name = .ok type) ↔
      ∃ owner, (Catalog.ofFiles files).owningFile name = .ok owner ∧
        ∃ spec, ImportSpec.ofFile owner = .ok spec := by
  simp only [← ClientImport.exists_ofFile_iff, Catalog.goType_eq_ok_iff]
  constructor
  · rintro ⟨type, owner, ho, hs, _⟩
    exact ⟨owner, ho, _, hs⟩
  · rintro ⟨owner, ho, spec, hs⟩
    obtain ⟨goName, hn⟩ := Option.ne_none_iff_exists'.mp (Catalog.nameIn?_ne_none hfiles ho)
    exact ⟨⟨spec, goName⟩, owner, ho, hs, hn⟩

theorem exists_owningFile_of_message {message : Message} (h : catalog.message name = .ok message) :
    ∃ owner, catalog.owningFile name = .ok owner := by
  obtain ⟨owner, hd⟩ := Catalog.message_eq_ok_iff.mp h
  exact ⟨owner, Catalog.owningFile_eq_ok_iff.mpr ⟨_, hd⟩⟩

theorem exists_owningFile_iff :
    (∃ owner, (Catalog.ofFiles files).owningFile name = .ok owner) ↔
      ∃ other ∈ files, ∃ node, (name, node) ∈ other.declarations := by
  rw [← Catalog.isSome_get?_elements_iff, Option.isSome_iff_exists]
  simp only [Catalog.owningFile_eq_ok_iff]
  exact ⟨fun ⟨owner, node, h⟩ => ⟨_, h⟩, fun ⟨⟨node, owner⟩, h⟩ => ⟨owner, node, h⟩⟩

/-- The types that a method names are declared, if those of its pages are. -/
theorem exists_owningFile_of_namesType
    (hpages : ∀ field, shapeOf (.ofFiles files) method = .ok (.paged field) → ∀ typeName,
      field.kind = .message → field.typeName = some typeName →
        ∃ other ∈ files, ∃ node, (typeName, node) ∈ other.declarations)
    (h : NamesType (.ofFiles files) method name) :
    ∃ owner, (Catalog.ofFiles files).owningFile name = .ok owner := by
  cases h with
  | request hs =>
    obtain ⟨input, _, hi, _⟩ := shapeOf_eq_ok_iff.mp hs
    exact exists_owningFile_of_message hi
  | response hs | page hs =>
    obtain ⟨_, output, _, ho, _⟩ := shapeOf_eq_ok_iff.mp hs
    exact exists_owningFile_of_message ho
  | operation hs =>
    obtain ⟨_, output, _, ho, hc⟩ := shapeOf_eq_ok_iff.mp hs
    rw [CallShape.classify_eq_longRunning_iff.mp hc] at ho
    exact exists_owningFile_of_message ho
  | element hs hk ht => exact exists_owningFile_iff.mpr (hpages _ hs _ hk ht)

/-- A method can be written just when its messages are there, its pages are in one field that is no
enum, and the files of the types that it names tell their packages. -/
theorem exists_exchange_iff_declared (hfiles : ∀ file ∈ files, file.HasSegments) :
    (∃ shape, shapeOf (.ofFiles files) method = .ok shape ∧
        ∃ exchange, Exchange.Resolved (.ofFiles files) method shape exchange) ↔
      (∃ shape, shapeOf (.ofFiles files) method = .ok shape) ∧
        (∀ field, shapeOf (.ofFiles files) method = .ok (.paged field) →
          field.kind ≠ .enum ∧ (field.kind = .message → ∃ typeName, field.typeName = some typeName ∧
            ∃ other ∈ files, ∃ node, (typeName, node) ∈ other.declarations)) ∧
        ∀ name, NamesType (.ofFiles files) method name → ∀ owner,
          (Catalog.ofFiles files).owningFile name = .ok owner →
            ∃ spec, ImportSpec.ofFile owner = .ok spec := by
  constructor
  · rintro ⟨shape, hs, he⟩
    obtain ⟨htypes, hpages⟩ := (exists_exchange_iff hs).mp he
    refine ⟨⟨shape, hs⟩, ?_, ?_⟩
    · intro field hf
      cases hs.symm.trans hf
      obtain ⟨henum, hmessage⟩ := hpages field rfl
      refine ⟨henum, fun hk => ?_⟩
      obtain ⟨typeName, ht⟩ := hmessage hk
      obtain ⟨owner, ho, _⟩ := (exists_goType_iff hfiles).mp (htypes _ (.element hf hk ht))
      exact ⟨typeName, ht, exists_owningFile_iff.mp ⟨owner, ho⟩⟩
    · intro name hn owner ho
      obtain ⟨owner', ho', hspec⟩ := (exists_goType_iff hfiles).mp (htypes name hn)
      cases ho.symm.trans ho'
      exact hspec
  · rintro ⟨⟨shape, hs⟩, helements, htypes⟩
    refine ⟨shape, hs, (exists_exchange_iff hs).mpr ⟨fun name hn => ?_, ?_⟩⟩
    · have howner : ∃ owner, (Catalog.ofFiles files).owningFile name = .ok owner := by
        refine exists_owningFile_of_namesType ?_ hn
        intro field hf typeName hk ht
        obtain ⟨typeName', ht', hdeclared⟩ := (helements field hf).2 hk
        cases ht.symm.trans ht'
        exact hdeclared
      obtain ⟨owner, ho⟩ := howner
      exact (exists_goType_iff hfiles).mpr ⟨owner, ho, htypes name hn owner ho⟩
    · rintro field rfl
      refine ⟨(helements field hs).1, fun hk => ?_⟩
      obtain ⟨typeName, ht, _⟩ := (helements field hs).2 hk
      exact ⟨typeName, ht⟩

theorem exists_resolved_iff_generable (hfiles : ∀ file ∈ files, file.HasSegments) :
    (∃ client, Resolved (.ofFiles files) options file service client) ↔
      Generable files file service := by
  simp only [exists_resolved_iff, ClientImport.exists_ofFile_iff, exists_exchange_iff_declared hfiles,
    exists_shapeOf_iff]
  constructor
  · rintro ⟨hhost, hpackage, hmethods⟩
    exact {
      messages := fun method hm => ⟨(hmethods method hm).1.1, (hmethods method hm).1.2.1⟩
      pages := fun method hm => (hmethods method hm).1.2.2
      host := hhost
      package := hpackage
      elements := fun method hm => (hmethods method hm).2.1
      types := fun method hm => (hmethods method hm).2.2 }
  · intro h
    refine ⟨h.host, h.package, fun method hm => ?_⟩
    obtain ⟨hinput, houtput⟩ := h.messages method hm
    exact ⟨⟨hinput, houtput, h.pages method hm⟩, h.elements method hm, h.types method hm⟩

end Client

namespace Run

variable {catalog : Catalog} {options : Options} {files : List File} {names : List String}

theorem exists_clients_iff :
    (∃ clients, Run.clients catalog options names = .ok clients) ↔
      ∀ name ∈ names, ∃ group, clientsOf catalog options name = .ok group := by
  rw [← Except.exists_forall₂_iff_forall_exists]
  simp only [clients_eq_ok_iff]
  exact ⟨fun ⟨_, groups, h, _⟩ => ⟨groups, h⟩, fun ⟨groups, h⟩ => ⟨_, groups, h, rfl⟩⟩

theorem exists_clientsOf_iff {name : String} :
    (∃ group, clientsOf catalog options name = .ok group) ↔
      ∃ file, catalog.file? name = some file ∧
        ∀ service ∈ file.services, ∃ client, Resolved catalog options file service client := by
  simp only [clientsOf_eq_ok_iff, ← Except.exists_forall₂_iff_forall_exists]
  exact ⟨fun ⟨group, file, hf, h⟩ => ⟨file, hf, group, h⟩,
    fun ⟨file, hf, group, h⟩ => ⟨group, file, hf, h⟩⟩

theorem exists_clients_iff_generable (hfiles : ∀ file ∈ files, file.HasSegments) :
    (∃ clients, Run.clients (.ofFiles files) options names = .ok clients) ↔
      ∀ name ∈ names, (∃ file ∈ files, file.name = name) ∧
        ∀ file, (Catalog.ofFiles files).file? name = some file →
          ∀ service ∈ file.services, Generable files file service := by
  simp only [exists_clients_iff, exists_clientsOf_iff, exists_resolved_iff_generable hfiles]
  refine forall₂_congr fun name _ => ?_
  rw [← Catalog.isSome_file?_iff, Option.isSome_iff_exists]
  constructor
  · rintro ⟨file, hf, hservices⟩
    refine ⟨⟨file, hf⟩, ?_⟩
    rintro file' hf'
    cases hf.symm.trans hf'
    exact hservices
  · rintro ⟨⟨file, hf⟩, hservices⟩
    exact ⟨file, hf, hservices file hf⟩

/-- A run succeeds just when all files that it is to generate exist and all services in them can be
generated. No fault puts an element outside its file's package. -/
theorem error_generateWith_eq_none_iff_generable (hfiles : ∀ file ∈ files, file.HasSegments) :
    ((generateWith files names options).error = none ↔
        ∀ name ∈ names, (∃ file ∈ files, file.name = name) ∧
          ∀ file, (Catalog.ofFiles files).file? name = some file →
            ∀ service ∈ file.services, Generable files file service) ∧
      ∀ name fullName package,
        clientsOf (.ofFiles files) options name ≠ .error (.outsidePackage fullName package) := by
  refine ⟨error_generateWith_eq_none_iff.trans (exists_clients_iff_generable hfiles), ?_⟩
  intro name fullName package h
  obtain ⟨_, h⟩ | ⟨file, _, service, _, h⟩ := fault_of_clientsOf h
  · cases h
  · exact not_serviceFault_outsidePackage hfiles h

theorem generable_library :
    (∀ file ∈ libraryFiles "Record", file.HasSegments) ∧
      ∃ file, (Catalog.ofFiles (libraryFiles "Record")).file? "library.proto" = some file ∧
        file.services.length = 1 ∧
          ∀ service ∈ file.services, Generable (libraryFiles "Record") file service := by
  have hfiles : ∀ file ∈ libraryFiles "Record", file.HasSegments := by decide +kernel
  have hrun :
      (generateWith (libraryFiles "Record") ["library.proto"] libraryOptions).error = none := by
    decide +kernel
  have hservices : ((Catalog.ofFiles (libraryFiles "Record")).file? "library.proto").map
      (·.services.length) = some 1 := by
    decide +kernel
  obtain ⟨file, hf, hlength⟩ := Option.map_eq_some_iff.mp hservices
  obtain ⟨hgenerable, _⟩ := error_generateWith_eq_none_iff_generable hfiles
  obtain ⟨_, hgenerable⟩ := hgenerable.mp hrun "library.proto" List.mem_cons_self
  exact ⟨hfiles, file, hf, hlength, hgenerable file hf⟩

end Run

end ClientGen
