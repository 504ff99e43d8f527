import ClientGen.Proofs.Proto.References
import ClientGen.Proofs.Run.Success

namespace ClientGen

open Schema Proto

def Fault.isDangling : Fault → Bool
  | .unknownType _ | .wrongNode _ _ | .undeclared _ | .outsidePackage _ _ | .untypedField _ => true
  | _ => false

theorem ImportSpec.not_isDangling {file : File} {fault : Fault} (h : ofFile file = .error fault) :
    fault.isDangling = false := by
  obtain rfl | rfl | ⟨_, rfl⟩ := fault_of_ofFile h <;> rfl

structure Closed (files : List File) : Prop where
  input : ∀ file ∈ files, ∀ name method, (name, Node.method method) ∈ file.declarations →
    ∃ message, (Catalog.ofFiles files).message method.inputType = .ok message
  output : ∀ file ∈ files, ∀ name method, (name, Node.method method) ∈ file.declarations →
    ∃ message, (Catalog.ofFiles files).message method.outputType = .ok message
  field : ∀ file ∈ files, ∀ name field, (name, Node.field field) ∈ file.declarations →
    field.kind = .message → ∃ typeName message, field.typeName = some typeName ∧
      (Catalog.ofFiles files).message typeName = .ok message

namespace Client

variable {files : List File} {file : File} {service : Service} {method : Method} {field : Field}
  {name : String} {fault : Fault}

/-- The field that holds the pages of a method is a field of its output message. -/
theorem exists_output_of_paged {catalog : Catalog}
    (h : shapeOf catalog method = .ok (.paged field)) :
    ∃ output, catalog.message method.outputType = .ok output ∧ field ∈ output.fields := by
  obtain ⟨input, output, _, ho, hc⟩ := shapeOf_eq_ok_iff.mp h
  refine ⟨output, ho, ?_⟩
  have hfield : field ∈ output.repeatedFields := by simp [(CallShape.classify_eq_paged_iff.mp hc).2.2]
  exact List.mem_of_mem_filter hfield

section

variable (hclosed : Closed files)

include hclosed

theorem exists_message_of_paged (h : shapeOf (.ofFiles files) method = .ok (.paged field))
    (hk : field.kind = .message) : ∃ typeName message, field.typeName = some typeName ∧
      (Catalog.ofFiles files).message typeName = .ok message := by
  obtain ⟨output, ho, hfield⟩ := exists_output_of_paged h
  obtain ⟨owner, hd⟩ := Catalog.message_eq_ok_iff.mp ho
  obtain ⟨hmem, hdecl⟩ := Catalog.mem_of_get?_elements hd
  obtain ⟨fieldName, hdecl⟩ := File.exists_field_mem_declarations hdecl hfield
  exact hclosed.field owner hmem fieldName field hdecl hk

theorem exists_owningFile_of_closed (h : NamesType (.ofFiles files) method name) :
    ∃ owner, (Catalog.ofFiles files).owningFile name = .ok owner := by
  refine exists_owningFile_of_namesType ?_ h
  intro field hpaged typeName hk ht
  obtain ⟨typeName', message, ht', hm⟩ := exists_message_of_paged hclosed hpaged hk
  cases ht.symm.trans ht'
  exact exists_owningFile_iff.mp (exists_owningFile_of_message hm)

variable (hs : ∀ file ∈ files, file.HasSegments)

include hs

theorem not_isDangling_of_goType (hn : NamesType (.ofFiles files) method name)
    (h : (Catalog.ofFiles files).goType name = .error fault) : fault.isDangling = false := by
  obtain ⟨hundeclared, rfl⟩ | ⟨owner, ho, h | ⟨hnone, rfl⟩⟩ := Catalog.fault_of_goType h
  · obtain ⟨owner, ho⟩ := exists_owningFile_of_closed hclosed hn
    obtain ⟨node, hd⟩ := Catalog.owningFile_eq_ok_iff.mp ho
    rw [hundeclared] at hd
    cases hd
  · exact ImportSpec.not_isDangling h
  · exact absurd hnone (Catalog.nameIn?_ne_none hs ho)

variable (hf : file ∈ files)

include hf

theorem not_isDangling_of_serviceFault (hservice : service ∈ file.services)
    (h : ServiceFault (.ofFiles files) file service fault) : fault.isDangling = false := by
  cases h with
  | input hm h =>
    obtain ⟨message, hok⟩ := hclosed.input file hf _ _ (File.method_mem_declarations hservice hm)
    rw [h] at hok
    cases hok
  | output hm h =>
    obtain ⟨message, hok⟩ := hclosed.output file hf _ _ (File.method_mem_declarations hservice hm)
    rw [h] at hok
    cases hok
  | shape _ h => obtain rfl | rfl := CallShape.fault_of_classify h <;> rfl
  | host => rfl
  | package h => exact ImportSpec.not_isDangling h
  | method _ h =>
    cases h with
    | type hn h => exact not_isDangling_of_goType hclosed hs hn h
    | element hpaged h =>
      obtain rfl | ⟨rfl, hk, hnone⟩ := PageElement.fault_of_ofField h
      · rfl
      · obtain ⟨typeName, _, ht, _⟩ := exists_message_of_paged hclosed hpaged hk
        rw [hnone] at ht
        cases ht

end

end Client

namespace Run

variable {files : List File} {options : Options} {names : List String}

/-- A run fails with the first fault of a named file. -/
theorem exists_fault_of_generateWith {error : String}
    (h : (generateWith files names options).error = some error) :
    ∃ name ∈ names, ∃ fault, clientsOf (.ofFiles files) options name = .error fault ∧
      error = s!"{name}: {fault.message}" := by
  unfold generateWith at h
  cases hc : clients (.ofFiles files) options names with
  | ok clients =>
    rw [hc] at h
    cases h
  | error text =>
    rw [hc] at h
    cases h
    obtain hc | ⟨_, _, hc⟩ := Except.bind_eq_error_iff.mp hc
    · obtain ⟨name, hn, h⟩ := Except.exists_mem_of_mapM_eq_error hc
      obtain ⟨fault, hfault, rfl⟩ := Except.mapError_eq_error_iff.mp h
      exact ⟨name, hn, fault, hfault, rfl⟩
    · cases hc

theorem not_isDangling_of_clientsOf {name : String} {fault : Fault} (hclosed : Closed files)
    (hs : ∀ file ∈ files, file.HasSegments)
    (h : clientsOf (.ofFiles files) options name = .error fault) : fault.isDangling = false := by
  obtain ⟨_, rfl⟩ | ⟨file, hfile, service, hservice, h⟩ := fault_of_clientsOf h
  · rfl
  · obtain ⟨hf, _⟩ := Catalog.mem_of_file? hfile
    exact Client.not_isDangling_of_serviceFault hclosed hs hf hservice h

end Run

namespace Proto

variable {descriptors : List FileDecl} {linked : Linked} {files : List Schema.File}

theorem MessageReference.exists_message {index : Nat} {scope written typeName : String}
    (h : MessageReference linked files index scope written typeName) :
    ∃ message, (Catalog.ofFiles files).message typeName = .ok message := by
  obtain ⟨symbol, message, _, rfl, hl⟩ := h
  obtain ⟨owner, _, hd⟩ := hl.found
  exact ⟨message, Catalog.message_eq_ok_iff.mpr ⟨owner, hd⟩⟩

theorem FieldReference.exists_message {index : Nat} {name : String} {field : Field}
    (h : FieldReference linked files index name field) (hk : field.kind = .message) :
    ∃ typeName message, field.typeName = some typeName ∧
      (Catalog.ofFiles files).message typeName = .ok message := by
  obtain ⟨_, _, _, _, _, _, _, _, h⟩ := h
  cases h with
  | scalar hmessage => exact absurd hk hmessage
  | @message _ symbol message _ _ _ ht hl =>
    obtain ⟨owner, _, hd⟩ := hl.found
    exact ⟨_, message, ht, Catalog.message_eq_ok_iff.mpr ⟨owner, hd⟩⟩
  | enum hk' => cases hk.symm.trans hk'

/-- The schema that linked descriptors declare names no type that it does not declare. -/
theorem closed_of_toSchema? (hlinked : Linked.ofFiles? descriptors = some linked)
    (hfiles : linked.toSchema? = some files) (hs : ∀ file ∈ files, file.HasSegments) :
    Closed files where
  input file hf name method hm := by
    obtain ⟨index, hf⟩ := List.mem_iff_getElem?.mp hf
    obtain ⟨_, _, _, _, _, _, _, _, _, hi, _⟩ := methodReferences hlinked hfiles hs hf hm
    exact hi.exists_message
  output file hf name method hm := by
    obtain ⟨index, hf⟩ := List.mem_iff_getElem?.mp hf
    obtain ⟨_, _, _, _, _, _, _, _, _, _, ho⟩ := methodReferences hlinked hfiles hs hf hm
    exact ho.exists_message
  field file hf name field hm hk := by
    obtain ⟨index, hf⟩ := List.mem_iff_getElem?.mp hf
    exact (fieldReference hlinked hfiles hs hf hm).exists_message hk

end Proto

namespace Run

/-- The type names of a decoded request lead to what they were resolved to, so that no run over its
files fails for want of a type. -/
theorem references_resolve {bytes : Wire.Bytes} {request : Request}
    (h : Request.ofBytes bytes = .ok request) (hs : ∀ file ∈ request.files, file.HasSegments) :
    (∃ members descriptors linked, readMembers nestingLimit .request bytes = some members ∧
      (members.blobs 15).mapM FileDecl.read? = some descriptors ∧
      Linked.ofFiles? descriptors = some linked ∧
      ∀ (index : Nat) file, request.files[index]? = some file →
        (∀ name method, (name, Node.method method) ∈ file.declarations →
          MethodReferences linked request.files index name method) ∧
        ∀ name field, (name, Node.field field) ∈ file.declarations →
          FieldReference linked request.files index name field) ∧
    ∀ names options error, (generateWith request.files names options).error = some error →
      ∃ name ∈ names, ∃ fault, clientsOf (.ofFiles request.files) options name = .error fault ∧
        error = s!"{name}: {fault.message}" ∧ fault.isDangling = false := by
  obtain ⟨members, descriptors, linked, hmembers, hd, hlinked, hfiles⟩ := exists_linked_of_ofBytes h
  refine ⟨⟨members, descriptors, linked, hmembers, hd, hlinked, ?_⟩, ?_⟩
  · intro index file hf
    exact ⟨fun name method => methodReferences hlinked hfiles hs hf,
      fun name field => fieldReference hlinked hfiles hs hf⟩
  · intro names options error herror
    obtain ⟨name, hn, fault, hfault, he⟩ := exists_fault_of_generateWith herror
    have hclosed := closed_of_toSchema? hlinked hfiles hs
    exact ⟨name, hn, fault, hfault, he, not_isDangling_of_clientsOf hclosed hs hfault⟩

/-- A request with one file. The field `p.M.e` is written to be an `E`, which is nested in `p.M`,
the field `p.N.x` an `M`, and the method `p.S.R` takes an `N` and returns a `.p.M`. -/
def nestedRequest : Wire.Bytes :=
  [10, 1, 97, 122, 73, 10, 1, 97, 18, 1, 112, 34, 27, 10, 1, 77, 18, 12, 10, 1, 101, 24, 2, 32, 1, 40,
    14, 50, 1, 69, 34, 8, 10, 1, 69, 18, 3, 10, 1, 90, 34, 17, 10, 1, 78, 18, 12, 10, 1, 120, 24, 1,
    32, 1, 40, 11, 50, 1, 77, 50, 17, 10, 1, 83, 18, 12, 10, 1, 82, 18, 1, 78, 26, 4, 46, 112, 46, 77]

theorem references_resolve_nested :
    ∃ request, Request.ofBytes nestedRequest = .ok request ∧
      (∀ file ∈ request.files, file.HasSegments) ∧
      (request.files.map fun file => file.declarations.map fun entry => (entry.1, entry.2.label)) =
        [[(".p.M.e", "field"), (".p.M.E", "enum"), (".p.M", "message"), (".p.N.x", "field"),
          (".p.N", "message"), (".p.S.R", "method"), (".p.S", "service")]] ∧
      (∃ members descriptors linked, readMembers nestingLimit .request nestedRequest = some members ∧
        (members.blobs 15).mapM FileDecl.read? = some descriptors ∧
        Linked.ofFiles? descriptors = some linked ∧
        ∀ (index : Nat) file, request.files[index]? = some file →
          (∀ name method, (name, Node.method method) ∈ file.declarations →
            MethodReferences linked request.files index name method) ∧
          ∀ name field, (name, Node.field field) ∈ file.declarations →
            FieldReference linked request.files index name field) ∧
      ∃ fault,
        clientsOf (.ofFiles request.files) { pkgPath := "q", pkgName := "q" } "a" = .error fault ∧
        fault.isDangling = false := by
  have hrun : ((Request.ofBytes nestedRequest).toOption.map fun request =>
      (decide (∀ file ∈ request.files, file.HasSegments),
        request.files.map fun file => file.declarations.map fun entry => (entry.1, entry.2.label),
        (generateWith request.files ["a"] { pkgPath := "q", pkgName := "q" }).error)) =
      some (true,
        [[(".p.M.e", "field"), (".p.M.E", "enum"), (".p.M", "message"), (".p.N.x", "field"),
          (".p.N", "message"), (".p.S.R", "method"), (".p.S", "service")]],
        some "a: missing annotation: service .p.S has no google.api.default_host") := by
    decide +kernel
  obtain ⟨request, hrequest, hrun⟩ := Option.map_eq_some_iff.mp hrun
  simp only [Prod.mk.injEq, decide_eq_true_eq] at hrun
  obtain ⟨hs, hdeclared, herror⟩ := hrun
  have hok : Request.ofBytes nestedRequest = .ok request := by
    cases hr : Request.ofBytes nestedRequest with
    | error failure => simp [hr, Except.toOption] at hrequest
    | ok read =>
      rw [hr] at hrequest
      cases hrequest
      rfl
  obtain ⟨hreferences, herrors⟩ := references_resolve hok hs
  obtain ⟨name, hn, fault, hfault, _, hdangling⟩ := herrors _ _ _ herror
  obtain rfl := List.mem_singleton.mp hn
  exact ⟨request, hok, hs, hdeclared, hreferences, fault, hfault, hdangling⟩

end Run

end ClientGen
