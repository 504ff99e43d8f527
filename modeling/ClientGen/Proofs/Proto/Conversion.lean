import ClientGen.Proofs.Except
import ClientGen.Proofs.Proto.Names
import Mathlib.Data.List.Forall2
import Mathlib.Data.List.Perm.Subperm

namespace ClientGen.Proto

open Linked (absolute)
open Schema (memberName scopeOfPackage)

theorem mapM_eq_some_iff {α β : Type} {f : α → Option β} {as : List α} {bs : List β} :
    as.mapM f = some bs ↔ List.Forall₂ (fun a b => f a = some b) as bs := by
  induction as generalizing bs with
  | nil =>
    rw [List.mapM_nil, List.forall₂_nil_left_iff]
    simp [pure, eq_comm]
  | cons a as ih =>
    rw [List.mapM_cons, List.forall₂_cons_left_iff]
    simp only [Option.bind_eq_bind, Option.bind_eq_some_iff, ih]
    constructor
    · rintro ⟨b, hb, bs', hbs, h⟩
      cases h
      exact ⟨b, bs', hb, hbs, rfl⟩
    · rintro ⟨b, bs', hb, hbs, rfl⟩
      exact ⟨b, hb, bs', hbs, rfl⟩

variable {linked : Linked} {visible : List Nat} {scope : String} {decl : MessageDecl}
  {message : Schema.Message}

theorem messagesToSchema?_eq (decls : List MessageDecl) :
    linked.messagesToSchema? visible scope decls =
      decls.mapM (linked.messageToSchema? visible scope) := by
  induction decls with
  | nil => rfl
  | cons decl decls ih =>
    rw [Linked.messagesToSchema?, ih, List.mapM_cons]

structure MessageConverted (linked : Linked) (visible : List Nat) (scope : String)
    (decl : MessageDecl) (message : Schema.Message) : Prop where
  name_eq : message.name = decl.name
  fields : List.Forall₂
    (fun field converted =>
      linked.fieldToSchema? visible (qualified scope decl.name) field = some converted)
    (decl.fields.mergeSort fun a b => a.number ≤ b.number) message.fields
  messages : List.Forall₂
    (fun inner converted =>
      linked.messageToSchema? visible (qualified scope decl.name) inner = some converted)
    decl.messages message.messages
  enums_eq : message.enums = decl.enums.map Linked.enumToSchema

theorem converted_of_messageToSchema?
    (h : linked.messageToSchema? visible scope decl = some message) :
    MessageConverted linked visible scope decl message := by
  cases decl
  simp only [Linked.messageToSchema?, messagesToSchema?_eq, Option.bind_eq_bind,
    Option.bind_eq_some_iff, mapM_eq_some_iff, Option.pure_def, Option.some.injEq] at h
  obtain ⟨fields, hfields, messages, hmessages, rfl⟩ := h
  exact ⟨rfl, hfields, hmessages, rfl⟩

def FieldType.typeName? : FieldType → Option String
  | .scalar _ => none
  | .message name | .enum name _ => some (absolute name)

theorem fieldToSchema?_eq_some_iff {field : FieldDecl} {converted : Schema.Field} :
    linked.fieldToSchema? visible scope field = some converted ↔
      ∃ type, linked.pool.fieldType? visible (qualified scope field.name) field = some type ∧
        converted = ⟨field.name, field.number, type.kind, field.repeated, type.typeName?⟩ := by
  simp only [Linked.fieldToSchema?, Option.bind_eq_bind]
  cases ht : linked.pool.fieldType? visible (qualified scope field.name) field with
  | none => simp
  | some type => cases type <;> simp [FieldType.kind, FieldType.typeName?, eq_comm]

theorem name_of_fieldToSchema? {field : FieldDecl} {converted : Schema.Field}
    (h : linked.fieldToSchema? visible scope field = some converted) :
    converted.name = field.name := by
  obtain ⟨_, _, rfl⟩ := fieldToSchema?_eq_some_iff.mp h
  rfl

namespace MessageConverted

theorem names_fields (h : MessageConverted linked visible scope decl message) :
    (message.fields.map (·.name)).Perm (decl.fields.map (·.name)) := by
  have hnames : message.fields.map (·.name) =
      (decl.fields.mergeSort fun a b => a.number ≤ b.number).map (·.name) :=
    Except.map_eq_of_forall₂ (h.fields.imp fun _ _ hf => name_of_fieldToSchema? hf)
  rw [hnames]
  exact (List.mergeSort_perm _ _).map _

theorem exists_decl_of_mem_fields (h : MessageConverted linked visible scope decl message)
    {field : Schema.Field} (hf : field ∈ message.fields) :
    ∃ fieldDecl ∈ decl.fields,
      linked.fieldToSchema? visible (qualified scope decl.name) fieldDecl = some field := by
  obtain ⟨fieldDecl, hd, hconv⟩ := Except.exists_mem_of_forall₂ h.fields hf
  exact ⟨fieldDecl, (List.mergeSort_perm _ _).mem_iff.mp hd, hconv⟩

end MessageConverted

theorem messageDeclarations_scopeOfPackage (h : message.name ≠ "") :
    messageDeclarations (scopeOfPackage scope) message =
      message.fields.map (fun field =>
          (absolute (qualified (qualified scope message.name) field.name), .field field)) ++
        message.messages.flatMap
          (messageDeclarations (scopeOfPackage (qualified scope message.name))) ++
        message.enums.map (fun enum =>
          (absolute (qualified (qualified scope message.name) enum.name), .enum enum)) ++
        [(absolute (qualified scope message.name), .message message)] := by
  have hscope : memberName (scopeOfPackage scope) message.name =
      scopeOfPackage (qualified scope message.name) := by
    rw [memberName_scopeOfPackage, scopeOfPackage_eq (qualified_ne_empty h)]
  rw [messageDeclarations_eq, hscope, enumDeclarations]
  simp only [memberName_scopeOfPackage]
  rw [scopeOfPackage_eq (qualified_ne_empty h)]

def HasNames (scope : String) (message : Schema.Message) : Prop :=
  ∀ entry ∈ messageDeclarations (scopeOfPackage scope) message, entry.2.name ≠ ""

theorem HasNames.name_ne_empty (h : HasNames scope message) : message.name ≠ "" :=
  h _ (mem_messageDeclarations_self _ message)

theorem HasNames.inner (h : HasNames scope message) {inner : Schema.Message}
    (hi : inner ∈ message.messages) : HasNames (qualified scope message.name) inner := by
  intro entry he
  refine h entry ?_
  rw [messageDeclarations_scopeOfPackage h.name_ne_empty]
  simp only [List.mem_append, List.mem_flatMap]
  exact .inl (.inl (.inr ⟨inner, hi, he⟩))

theorem forall₂_and_mem {α β : Type} {R : α → β → Prop} {as : List α} {bs : List β}
    (h : List.Forall₂ R as bs) : List.Forall₂ (fun a b => a ∈ as ∧ b ∈ bs ∧ R a b) as bs := by
  have hright : List.Forall₂ (fun b a => b ∈ bs ∧ R a b) bs as :=
    (List.forall₂_and_left _ _).mpr ⟨fun _ hb => hb, h.flip⟩
  exact (List.forall₂_and_left _ _).mpr ⟨fun _ ha => ha, hright.flip⟩

theorem subperm_flatMap {α β γ : Type} {f : α → List γ} {g : β → List γ} {as : List α} {bs : List β}
    (h : List.Forall₂ (fun a b => (g b).Subperm (f a)) as bs) :
    (bs.flatMap g).Subperm (as.flatMap f) := by
  induction h with
  | nil => exact List.Subperm.refl _
  | cons hab _ ih =>
    rw [List.flatMap_cons, List.flatMap_cons]
    exact hab.append ih

theorem sublist_enumKeys (scope : String) (enums : List EnumDecl) :
    (enums.map fun enum => absolute (qualified scope enum.name)).Sublist
      (enums.flatMap fun enum => (enumNames scope enum).keys) := by
  induction enums with
  | nil => exact .slnil
  | cons enum enums ih =>
    rw [List.map_cons, List.flatMap_cons, enumNames, Names.keys, List.map_cons, List.cons_append]
    exact (ih.trans (List.sublist_append_right _ _)).cons_cons _

/-- The keys of a converted message are full names that the pool knows. -/
theorem subperm_keys (h : linked.messageToSchema? visible scope decl = some message)
    (hn : HasNames scope message) :
    ((messageDeclarations (scopeOfPackage scope) message).map Prod.fst).Subperm
      (messageNames scope decl).keys := by
  induction decl using MessageDecl.nesting generalizing scope message with
  | step decl ih =>
    have hc := converted_of_messageToSchema? h
    have hfields : (message.fields.map fun field =>
          absolute (qualified (qualified scope decl.name) field.name)).Subperm
        (plainNames (qualified scope decl.name) .field (decl.fields.map (·.name))).keys := by
      have hperm := hc.names_fields.map fun name =>
        absolute (qualified (qualified scope decl.name) name)
      simp only [Names.keys, plainNames, List.map_map] at hperm ⊢
      exact hperm.subperm
    have hmessages : (message.messages.flatMap fun inner =>
          (messageDeclarations (scopeOfPackage (qualified scope decl.name)) inner).map
            Prod.fst).Subperm
        (decl.messages.flatMap fun inner =>
          (messageNames (qualified scope decl.name) inner).keys) := by
      refine subperm_flatMap ((forall₂_and_mem hc.messages).imp ?_)
      rintro inner converted ⟨hi, hm, hconv⟩
      exact ih inner hi hconv (hc.name_eq ▸ hn.inner hm)
    have henums : (message.enums.map fun enum =>
          absolute (qualified (qualified scope decl.name) enum.name)).Subperm
        (decl.enums.flatMap fun enum => (enumNames (qualified scope decl.name) enum).keys) := by
      rw [hc.enums_eq, List.map_map]
      exact (sublist_enumKeys _ _).subperm
    -- The pool also has the names of oneofs and of extensions.
    have hmembers := hfields.trans (List.sublist_append_left _
      (plainNames (qualified scope decl.name) .oneof (decl.oneofs.map (·.name))).keys).subperm
    have hall := (hmembers.append hmessages).append henums
    rw [messageDeclarations_scopeOfPackage hn.name_ne_empty, messageNames_eq, hc.name_eq]
    simp only [Names.keys, List.map_append, List.map_cons, List.map_nil, List.map_map,
      List.map_flatMap] at hall ⊢
    refine (List.perm_append_singleton _ _).subperm.trans ((List.subperm_cons _).mpr ?_)
    exact hall.trans (List.sublist_append_left _ _).subperm

inductive Converts (linked : Linked) (visible : List Nat) : String → Meaning → Node → Prop
  | message {scope : String} {decl : MessageDecl} {message : Schema.Message}
      (h : linked.messageToSchema? visible scope decl = some message) :
      Converts linked visible (qualified scope decl.name) (.message decl) (.message message)
  | enum {name : String} {decl : EnumDecl} :
      Converts linked visible name (.enum decl) (.enum (Linked.enumToSchema decl))

theorem eq_of_mem_enumNames {enum : EnumDecl} {entry : String × Meaning}
    (h : entry ∈ enumNames scope enum) (ht : entry.2.isType = true) :
    entry = (qualified scope enum.name, .enum enum) := by
  rcases List.mem_cons.mp h with rfl | h
  · rfl
  · rw [meaning_of_mem_plainNames h] at ht
    cases ht

theorem isType_of_mem_extensionNames {extensions : List FieldDecl} {entry : String × Meaning}
    (h : entry ∈ extensionNames scope extensions) : entry.2.isType = false := by
  obtain ⟨_, _, rfl⟩ := List.mem_map.mp h
  rfl

/-- Every type in a message declaration is declared by the converted message, under its full
name. -/
theorem exists_node_of_mem_messageNames
    (h : linked.messageToSchema? visible scope decl = some message) (hn : HasNames scope message)
    {entry : String × Meaning} (he : entry ∈ messageNames scope decl) (ht : entry.2.isType = true) :
    ∃ node, Converts linked visible entry.1 entry.2 node ∧
      (absolute entry.1, node) ∈ messageDeclarations (scopeOfPackage scope) message := by
  induction decl using MessageDecl.nesting generalizing scope message with
  | step decl ih =>
    have hc := converted_of_messageToSchema? h
    rw [messageDeclarations_scopeOfPackage hn.name_ne_empty]
    rw [messageNames_eq] at he
    simp only [List.mem_cons, List.mem_append, List.mem_flatMap] at he
    rcases he with rfl | (((he | he) | ⟨inner, hi, he⟩) | ⟨enum, hm, he⟩) | he
    · refine ⟨_, .message h, ?_⟩
      rw [hc.name_eq]
      exact List.mem_append_right _ List.mem_cons_self
    · rw [meaning_of_mem_plainNames he] at ht
      cases ht
    · rw [meaning_of_mem_plainNames he] at ht
      cases ht
    · obtain ⟨converted, hm, hconv⟩ := Except.exists_mem_of_forall₂ hc.messages.flip hi
      have hnames := hn.inner hm
      rw [hc.name_eq] at hnames
      obtain ⟨node, hnode, hd⟩ := ih inner hi hconv hnames he
      refine ⟨node, hnode, ?_⟩
      rw [hc.name_eq]
      simp only [List.mem_append, List.mem_flatMap]
      exact .inl (.inl (.inr ⟨converted, hm, hd⟩))
    · rw [eq_of_mem_enumNames he ht]
      refine ⟨_, .enum, ?_⟩
      have henum : Linked.enumToSchema enum ∈ message.enums := by
        rw [hc.enums_eq]
        exact List.mem_map_of_mem hm
      simp only [List.mem_append, List.mem_map]
      refine .inl (.inr ⟨_, henum, ?_⟩)
      rw [hc.name_eq]
      rfl
    · rw [isType_of_mem_extensionNames he] at ht
      cases ht

/-- Every field that a converted message declares comes from a field of a declared message. -/
theorem exists_decl_of_mem_messageDeclarations
    (h : linked.messageToSchema? visible scope decl = some message) (hn : HasNames scope message)
    {name : String} {field : Schema.Field}
    (hf : (name, Node.field field) ∈ messageDeclarations (scopeOfPackage scope) message) :
    ∃ fullName owner, (fullName, Meaning.message owner) ∈ messageNames scope decl ∧
      ∃ fieldDecl ∈ owner.fields, name = absolute (qualified fullName fieldDecl.name) ∧
        linked.fieldToSchema? visible fullName fieldDecl = some field := by
  induction decl using MessageDecl.nesting generalizing scope message with
  | step decl ih =>
    have hc := converted_of_messageToSchema? h
    rw [messageDeclarations_scopeOfPackage hn.name_ne_empty, hc.name_eq] at hf
    rw [messageNames_eq]
    simp only [List.mem_append, List.mem_map, List.mem_flatMap, List.mem_singleton] at hf
    rcases hf with ((⟨other, ho, he⟩ | ⟨inner, hi, he⟩) | ⟨_, _, he⟩) | he
    · cases he
      obtain ⟨fieldDecl, hd, hconv⟩ := hc.exists_decl_of_mem_fields ho
      refine ⟨_, decl, List.mem_cons_self, fieldDecl, hd, ?_, hconv⟩
      rw [name_of_fieldToSchema? hconv]
    · obtain ⟨innerDecl, hd, hconv⟩ := Except.exists_mem_of_forall₂ hc.messages hi
      obtain ⟨fullName, owner, ho, hfield⟩ := ih innerDecl hd hconv (hc.name_eq ▸ hn.inner hi) he
      refine ⟨fullName, owner, List.mem_cons_of_mem _ ?_, hfield⟩
      simp only [List.mem_append, List.mem_flatMap]
      exact .inl (.inl (.inr ⟨innerDecl, hd, ho⟩))
    · cases he
    · cases he

structure ServiceConverted (linked : Linked) (visible : List Nat) (scope : String)
    (decl : ServiceDecl) (service : Schema.Service) : Prop where
  name_eq : service.name = decl.name
  methods : List.Forall₂
    (fun method converted =>
      linked.methodToSchema? visible (qualified scope decl.name) method = some converted)
    decl.methods service.methods

theorem converted_of_serviceToSchema? {decl : ServiceDecl} {service : Schema.Service}
    (h : linked.serviceToSchema? visible scope decl = some service) :
    ServiceConverted linked visible scope decl service := by
  simp only [Linked.serviceToSchema?, Option.bind_eq_bind, Option.bind_eq_some_iff,
    mapM_eq_some_iff, Option.pure_def, Option.some.injEq] at h
  obtain ⟨methods, hmethods, rfl⟩ := h
  exact ⟨rfl, hmethods⟩

theorem exists_symbols_of_methodToSchema? {decl : MethodDecl} {method : Schema.Method}
    (h : linked.methodToSchema? visible scope decl = some method) :
    method.name = decl.name ∧
      (∃ input, linked.pool.resolve? visible Meaning.isMessage (qualified scope decl.name)
          decl.inputType = some input ∧ method.inputType = absolute input.name) ∧
      ∃ output, linked.pool.resolve? visible Meaning.isMessage (qualified scope decl.name)
          decl.outputType = some output ∧ method.outputType = absolute output.name := by
  simp only [Linked.methodToSchema?, Option.bind_eq_bind, Option.bind_eq_some_iff, Option.pure_def,
    Option.some.injEq] at h
  obtain ⟨input, hi, output, ho, rfl⟩ := h
  exact ⟨rfl, ⟨input, hi, rfl⟩, output, ho, rfl⟩

structure FileConverted (linked : Linked) (visible : List Nat) (decl : FileDecl)
    (file : Schema.File) : Prop where
  package_eq : file.package = decl.package
  messages : List.Forall₂
    (fun message converted =>
      linked.messageToSchema? visible decl.package message = some converted)
    decl.messages file.messages
  enums_eq : file.enums = decl.enums.map Linked.enumToSchema
  services : List.Forall₂
    (fun service converted =>
      linked.serviceToSchema? visible decl.package service = some converted)
    decl.services file.services

theorem converted_of_fileToSchema? {index : Nat} {decl : FileDecl} {file : Schema.File}
    (h : linked.fileToSchema? index decl = some file) :
    FileConverted linked (linked.pool.visible index) decl file := by
  simp only [Linked.fileToSchema?, messagesToSchema?_eq, Option.bind_eq_bind,
    Option.bind_eq_some_iff, mapM_eq_some_iff, Option.pure_def, Option.some.injEq] at h
  obtain ⟨messages, hmessages, services, hservices, rfl⟩ := h
  exact ⟨rfl, hmessages, rfl, hservices⟩

end ClientGen.Proto
