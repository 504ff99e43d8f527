import ClientGen.Proofs.Catalog.Lookup
import ClientGen.Proofs.Proto.Conversion
import ClientGen.Command.Request

namespace ClientGen.Proto

open Linked (absolute)
open Schema (memberName scopeOfPackage)

variable {linked : Linked} {visible : List Nat} {decl : FileDecl} {file : Schema.File}

theorem hasNames_of_hasSegments (h : file.HasSegments) {message : Schema.Message}
    (hm : message ∈ file.messages) : HasNames file.package message := by
  intro entry he
  exact (h entry (Schema.File.mem_declarations.mpr (.inl ⟨message, hm, he⟩))).1

namespace FileConverted

variable (h : FileConverted linked visible decl file) (hs : file.HasSegments)

include h hs

theorem scope_of_service {service : ServiceDecl} {converted : Schema.Service}
    (hc : converted ∈ file.services)
    (hconv : linked.serviceToSchema? visible decl.package service = some converted) :
    memberName file.scope converted.name = scopeOfPackage (qualified decl.package service.name) := by
  have hname := (converted_of_serviceToSchema? hconv).name_eq
  have hne : converted.name ≠ "" := (hs _ (Schema.File.service_mem_declarations hc)).1
  rw [Schema.File.scope, h.package_eq, memberName_scopeOfPackage, hname,
    scopeOfPackage_eq (qualified_ne_empty (hname ▸ hne))]

theorem subperm_serviceKeys {service : ServiceDecl} {converted : Schema.Service}
    (hc : converted ∈ file.services)
    (hconv : linked.serviceToSchema? visible decl.package service = some converted) :
    ((serviceDeclarations file.scope converted).map Prod.fst).Subperm
      (serviceNames decl.package service).keys := by
  have hservice := converted_of_serviceToSchema? hconv
  have hscope := h.scope_of_service hs hc hconv
  have hself : scopeOfPackage (qualified decl.package service.name) =
      absolute (qualified decl.package service.name) := by
    rw [← hscope, Schema.File.scope, h.package_eq, memberName_scopeOfPackage, hservice.name_eq]
  have hmethods : converted.methods.map (·.name) = service.methods.map (·.name) :=
    Except.map_eq_of_forall₂ (hservice.methods.imp fun _ _ hm =>
      (exists_symbols_of_methodToSchema? hm).1)
  have hkeys := congrArg (List.map fun name =>
    absolute (qualified (qualified decl.package service.name) name)) hmethods
  rw [List.map_map, List.map_map] at hkeys
  rw [serviceDeclarations, hscope, serviceNames, plainNames, Names.keys]
  simp only [List.map_append, List.map_cons, List.map_nil, List.map_map, Function.comp_def,
    memberName_scopeOfPackage] at hkeys ⊢
  rw [hkeys, hself]
  exact (List.perm_append_singleton _ _).subperm

theorem subperm_keys :
    (file.declarations.map Prod.fst).Subperm decl.elementNames.keys := by
  have hmessages : (file.messages.flatMap fun message =>
        (messageDeclarations file.scope message).map Prod.fst).Subperm
      (decl.messages.flatMap fun message => (messageNames decl.package message).keys) := by
    refine subperm_flatMap ((forall₂_and_mem h.messages).imp ?_)
    rintro message converted ⟨_, hm, hconv⟩
    rw [Schema.File.scope, h.package_eq]
    exact Proto.subperm_keys hconv (h.package_eq ▸ hasNames_of_hasSegments hs hm)
  have henums : ((enumDeclarations file.scope file.enums).map Prod.fst).Subperm
      (decl.enums.flatMap fun enum => (enumNames decl.package enum).keys) := by
    rw [enumDeclarations, h.enums_eq, List.map_map, List.map_map, Schema.File.scope, h.package_eq]
    simp only [Function.comp_def, memberName_scopeOfPackage]
    exact (sublist_enumKeys _ _).subperm
  have hservices : (file.services.flatMap fun service =>
        (serviceDeclarations file.scope service).map Prod.fst).Subperm
      (decl.services.flatMap fun service => (serviceNames decl.package service).keys) := by
    refine subperm_flatMap ((forall₂_and_mem h.services).imp ?_)
    rintro service converted ⟨_, hm, hconv⟩
    exact h.subperm_serviceKeys hs hm hconv
  rw [Schema.File.declarations, messagesDeclarations_eq_flatMap, FileDecl.elementNames]
  simp only [Names.keys, List.map_append, List.map_flatMap] at hmessages henums hservices ⊢
  exact ((hmessages.append henums).append hservices).trans (List.sublist_append_left _ _).subperm

/-- Every type that a file declares is found in the converted file under its full name. -/
theorem exists_node {entry : String × Meaning} (he : entry ∈ decl.elementNames)
    (ht : entry.2.isType = true) :
    ∃ node, Converts linked visible entry.1 entry.2 node ∧
      (absolute entry.1, node) ∈ file.declarations := by
  simp only [FileDecl.elementNames, List.mem_append, List.mem_flatMap] at he
  rcases he with ((⟨message, hm, he⟩ | ⟨enum, hm, he⟩) | ⟨service, hm, he⟩) | he
  · obtain ⟨converted, hc, hconv⟩ := Except.exists_mem_of_forall₂ h.messages.flip hm
    have hnames := hasNames_of_hasSegments hs hc
    rw [h.package_eq] at hnames
    obtain ⟨node, hnode, hd⟩ := exists_node_of_mem_messageNames hconv hnames he ht
    rw [← h.package_eq] at hd
    exact ⟨node, hnode, Schema.File.mem_declarations.mpr (.inl ⟨converted, hc, hd⟩)⟩
  · rw [eq_of_mem_enumNames he ht]
    refine ⟨_, .enum, Schema.File.mem_declarations.mpr (.inr (.inl ?_))⟩
    rw [enumDeclarations, h.enums_eq, List.map_map, Schema.File.scope, h.package_eq,
      ← memberName_scopeOfPackage]
    exact List.mem_map.mpr ⟨enum, hm, rfl⟩
  · rcases List.mem_cons.mp he with rfl | he
    · cases ht
    · rw [meaning_of_mem_plainNames he] at ht
      cases ht
  · rw [isType_of_mem_extensionNames he] at ht
    cases ht

theorem exists_field_decl {name : String} {field : Schema.Field}
    (hf : (name, Node.field field) ∈ file.declarations) :
    ∃ fullName owner, (fullName, Meaning.message owner) ∈ decl.elementNames ∧
      ∃ fieldDecl ∈ owner.fields, name = absolute (qualified fullName fieldDecl.name) ∧
        linked.fieldToSchema? visible fullName fieldDecl = some field := by
  obtain ⟨message, hm, hf⟩ := Schema.File.field_mem_declarations_iff.mp hf
  obtain ⟨messageDecl, hd, hconv⟩ := Except.exists_mem_of_forall₂ h.messages hm
  have hnames := hasNames_of_hasSegments hs hm
  rw [Schema.File.scope, h.package_eq] at hf
  rw [h.package_eq] at hnames
  obtain ⟨fullName, owner, ho, hfield⟩ := exists_decl_of_mem_messageDeclarations hconv hnames hf
  refine ⟨fullName, owner, ?_, hfield⟩
  simp only [FileDecl.elementNames, List.mem_append, List.mem_flatMap]
  exact .inl (.inl (.inl ⟨messageDecl, hd, ho⟩))

theorem exists_method_decl {name : String} {method : Schema.Method}
    (hm : (name, Node.method method) ∈ file.declarations) :
    ∃ service ∈ decl.services, ∃ methodDecl ∈ service.methods,
      name = absolute (qualified (qualified decl.package service.name) methodDecl.name) ∧
        linked.methodToSchema? visible (qualified decl.package service.name) methodDecl =
          some method := by
  obtain ⟨service, hservice, hmethod, rfl⟩ := Schema.File.method_mem_declarations_iff.mp hm
  obtain ⟨serviceDecl, hd, hconv⟩ := Except.exists_mem_of_forall₂ h.services hservice
  obtain ⟨methodDecl, hmd, hmethod⟩ :=
    Except.exists_mem_of_forall₂ (converted_of_serviceToSchema? hconv).methods hmethod
  refine ⟨serviceDecl, hd, methodDecl, hmd, ?_, hmethod⟩
  rw [Schema.Service.fullName, h.scope_of_service hs hservice hconv, memberName_scopeOfPackage,
    (exists_symbols_of_methodToSchema? hmethod).1]

end FileConverted

end ClientGen.Proto
