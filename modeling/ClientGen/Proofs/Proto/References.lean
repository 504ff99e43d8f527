import ClientGen.Proofs.Client.Faults
import ClientGen.Proofs.Proto.Files

namespace ClientGen.Proto

open Schema (Field Method)
open Linked (absolute)

section

variable {pool : Pool} {visible : List Nat} {wanted : Meaning → Bool} {scope name : String}
  {symbol : Symbol}

theorem mem_symbols_of_lookup? (h : pool.lookup? visible wanted name = some symbol) :
    symbol ∈ pool.symbols ∧ wanted symbol.meaning = true := by
  have hp := List.find?_some h
  simp only [Bool.and_eq_true] at hp
  exact ⟨List.mem_of_find?_eq_some h, hp.1.2⟩

/-- What a name resolves to is declared, and is what was wanted. -/
theorem mem_symbols_of_resolve? (h : pool.resolve? visible wanted scope name = some symbol) :
    symbol ∈ pool.symbols ∧ wanted symbol.meaning = true := by
  unfold Pool.resolve? at h
  split at h
  · exact mem_symbols_of_lookup? h
  · split at h
    · obtain ⟨_, _, h⟩ := List.exists_of_findSome?_eq_some h
      exact mem_symbols_of_lookup? h
    · obtain ⟨_, _, h⟩ := Option.bind_eq_some_iff.mp h
      exact mem_symbols_of_lookup? h

/-- The type of a field is a scalar, or the type that its type name resolves to. -/
theorem fieldType?_cases {decl : FieldDecl} {type : FieldType}
    (h : pool.fieldType? visible scope decl = some type) :
    (∃ kind, kind ≠ .message ∧ kind ≠ .enum ∧ type = .scalar kind) ∨
      ∃ written symbol, decl.typeName = some written ∧
        pool.resolve? visible Meaning.isType scope written = some symbol ∧
        (symbol.meaning.isMessage = true ∧ type = .message symbol.name ∨
          symbol.meaning.isMessage = false ∧ ∃ values, type = .enum symbol.name values) := by
  unfold Pool.fieldType? at h
  cases ht : decl.typeName with
  | none =>
    rw [ht] at h
    refine .inl ?_
    generalize kindOfCode decl.typeCode = kind at h
    cases kind
    case message | enum => cases h
    all_goals
      cases h
      exact ⟨_, by simp, by simp, rfl⟩
  | some written =>
    rw [ht] at h
    obtain ⟨symbol, hs, h⟩ := Option.bind_eq_some_iff.mp h
    refine .inr ⟨written, symbol, rfl, hs, ?_⟩
    have hwanted := (mem_symbols_of_resolve? hs).2
    cases hm : symbol.meaning with
    | message decl =>
      rw [hm] at h
      cases h
      exact .inl ⟨rfl, rfl⟩
    | enum decl =>
      rw [hm] at h
      cases h
      exact .inr ⟨rfl, _, rfl⟩
    | _ =>
      rw [hm] at hwanted
      cases hwanted

end

theorem pool_of_ofFiles? {descriptors : List FileDecl} {linked : Linked}
    (h : Linked.ofFiles? descriptors = some linked) :
    linked.pool = ⟨descriptors, symbolsOf descriptors⟩ ∧ noClash (symbolsOf descriptors) = true := by
  obtain ⟨pool, hpool, h⟩ := Option.bind_eq_some_iff.mp h
  obtain ⟨other, hlinked, h⟩ := Option.bind_eq_some_iff.mp h
  obtain ⟨extensions, _, hlinked⟩ := Option.bind_eq_some_iff.mp hlinked
  obtain ⟨types, _, hlinked⟩ := Option.bind_eq_some_iff.mp hlinked
  cases hlinked
  split at h
  · cases h
    unfold Pool.ofFiles? at hpool
    dsimp only at hpool
    split at hpool
    · rename_i hvalid
      cases hpool
      simp only [Bool.and_eq_true] at hvalid
      exact ⟨rfl, hvalid.1.2⟩
    · cases hpool
  · cases h

/-- A decoded request comes from file descriptors that could be read and linked. -/
theorem exists_linked_of_ofBytes {bytes : Wire.Bytes} {request : Schema.Request}
    (h : Schema.Request.ofBytes bytes = .ok request) :
    ∃ members descriptors linked, readMembers nestingLimit .request bytes = some members ∧
      (members.blobs 15).mapM FileDecl.read? = some descriptors ∧
      Linked.ofFiles? descriptors = some linked ∧ linked.toSchema? = some request.files := by
  unfold Schema.Request.ofBytes at h
  split at h
  · cases h
  · rename_i members hmembers
    split at h
    · cases h
    · rename_i files hfiles
      cases h
      obtain ⟨descriptors, hd, hfiles⟩ := Option.bind_eq_some_iff.mp hfiles
      obtain ⟨linked, hl, hfiles⟩ := Option.bind_eq_some_iff.mp hfiles
      exact ⟨members, descriptors, linked, hmembers, hd, hl, hfiles⟩

/-- What a symbol stands for is in the catalog, declared by the file that declares the symbol. -/
structure Leads (linked : Linked) (files : List Schema.File) (symbol : Symbol) (node : Node) :
    Prop where
  converts : Converts linked (linked.pool.visible symbol.file) symbol.name symbol.meaning node
  found : ∃ owner, files[symbol.file]? = some owner ∧
    (Catalog.ofFiles files).elements.get? (absolute symbol.name) = some ⟨node, owner⟩

theorem Leads.exists_message {linked : Linked} {files : List Schema.File} {symbol : Symbol}
    {node : Node} (h : Leads linked files symbol node) (hm : symbol.meaning.isMessage = true) :
    ∃ message, node = .message message := by
  obtain ⟨hconv, _⟩ := h
  generalize symbol.meaning = meaning at *
  generalize symbol.name = name at *
  cases hconv with
  | message => exact ⟨_, rfl⟩
  | enum => cases hm

theorem Leads.exists_enum {linked : Linked} {files : List Schema.File} {symbol : Symbol}
    {node : Node} (h : Leads linked files symbol node) (hm : symbol.meaning.isMessage = false) :
    ∃ enum, node = .enum enum := by
  obtain ⟨hconv, _⟩ := h
  generalize symbol.meaning = meaning at *
  generalize symbol.name = name at *
  cases hconv with
  | message => cases hm
  | enum => exact ⟨_, rfl⟩

def MessageReference (linked : Linked) (files : List Schema.File) (index : Nat)
    (scope written typeName : String) : Prop :=
  ∃ symbol message,
    linked.pool.resolve? (linked.pool.visible index) Meaning.isMessage scope written = some symbol ∧
      typeName = absolute symbol.name ∧ Leads linked files symbol (.message message)

def MethodReferences (linked : Linked) (files : List Schema.File) (index : Nat) (name : String)
    (method : Method) : Prop :=
  ∃ file service decl, linked.pool.files[index]? = some file ∧ service ∈ file.services ∧
    decl ∈ service.methods ∧ ∃ fullName,
      fullName = qualified (qualified file.package service.name) decl.name ∧
      name = absolute fullName ∧
      MessageReference linked files index fullName decl.inputType method.inputType ∧
      MessageReference linked files index fullName decl.outputType method.outputType

inductive TypeReference (linked : Linked) (files : List Schema.File) (index : Nat) (scope : String)
    (written : Option String) (field : Field) : Prop
  | scalar (hmessage : field.kind ≠ .message) (henum : field.kind ≠ .enum)
      (ht : field.typeName = none)
  | message {name : String} {symbol : Symbol} {message : Schema.Message}
      (hk : field.kind = .message) (hw : written = some name)
      (hr : linked.pool.resolve? (linked.pool.visible index) Meaning.isType scope name = some symbol)
      (ht : field.typeName = some (absolute symbol.name))
      (hl : Leads linked files symbol (.message message))
  | enum {name : String} {symbol : Symbol} {enum : Schema.EnumType}
      (hk : field.kind = .enum) (hw : written = some name)
      (hr : linked.pool.resolve? (linked.pool.visible index) Meaning.isType scope name = some symbol)
      (ht : field.typeName = some (absolute symbol.name))
      (hl : Leads linked files symbol (.enum enum))

def FieldReference (linked : Linked) (files : List Schema.File) (index : Nat) (name : String)
    (field : Field) : Prop :=
  ∃ scope message decl, ⟨scope, .message message, index⟩ ∈ linked.pool.symbols ∧
    decl ∈ message.fields ∧ ∃ fullName, fullName = qualified scope decl.name ∧
    name = absolute fullName ∧
      TypeReference linked files index fullName decl.typeName field

section

variable {descriptors : List FileDecl} {linked : Linked} {files : List Schema.File} {index : Nat}
  {symbol : Symbol}

theorem getElem?_of_forall₂ {α β : Type} {R : α → β → Prop} {as : List α} {bs : List β}
    (h : List.Forall₂ R as bs) {i : Nat} {b : β} (hb : bs[i]? = some b) :
    ∃ a, as[i]? = some a ∧ R a b := by
  induction h generalizing i with
  | nil => cases hb
  | cons hab _ ih =>
    cases i with
    | zero =>
      cases hb
      exact ⟨_, rfl, hab⟩
    | succ i => exact ih hb

variable (hlinked : Linked.ofFiles? descriptors = some linked)
  (hfiles : linked.toSchema? = some files)

include hlinked hfiles

theorem forall₂_toSchema? : List.Forall₂
    (fun (entry : Nat × FileDecl) file => linked.fileToSchema? entry.1 entry.2 = some file)
    (descriptors.mapIdx fun i decl => (i, decl)) files := by
  have hpool := (pool_of_ofFiles? hlinked).1
  rw [Linked.toSchema?, hpool] at hfiles
  exact mapM_eq_some_iff.mp hfiles

theorem exists_decl_of_file {file : Schema.File} (hf : files[index]? = some file) :
    ∃ decl, descriptors[index]? = some decl ∧
      FileConverted linked (linked.pool.visible index) decl file := by
  obtain ⟨entry, he, hconv⟩ := getElem?_of_forall₂ (forall₂_toSchema? hlinked hfiles) hf
  rw [List.getElem?_mapIdx, Option.map_eq_some_iff] at he
  obtain ⟨decl, hd, rfl⟩ := he
  exact ⟨decl, hd, converted_of_fileToSchema? hconv⟩

theorem exists_file_of_decl {decl : FileDecl} (hd : descriptors[index]? = some decl) :
    ∃ file, files[index]? = some file ∧
      FileConverted linked (linked.pool.visible index) decl file := by
  have hentry : (descriptors.mapIdx fun i decl => (i, decl))[index]? = some (index, decl) := by
    rw [List.getElem?_mapIdx, hd]
    rfl
  obtain ⟨file, hf, hconv⟩ := getElem?_of_forall₂ (forall₂_toSchema? hlinked hfiles).flip hentry
  exact ⟨file, hf, converted_of_fileToSchema? hconv⟩

variable (hs : ∀ file ∈ files, file.HasSegments)

include hs

theorem nodup_keys : (files.flatMap (·.declarations.map Prod.fst)).Nodup := by
  have hnames : (descriptors.flatMap fun decl => decl.elementNames.keys).Nodup := by
    have hnodup := (nodup_elementNames (pool_of_ofFiles? hlinked).2).map absolute_injective
    rw [List.map_flatMap] at hnodup
    simpa only [Names.keys, List.map_map, Function.comp_def] using hnodup
  have hsubperm : List.Forall₂
      (fun (entry : Nat × FileDecl) (file : Schema.File) =>
        (file.declarations.map Prod.fst).Subperm entry.2.elementNames.keys)
      (descriptors.mapIdx fun i decl => (i, decl)) files := by
    refine (forall₂_and_mem (forall₂_toSchema? hlinked hfiles)).imp ?_
    rintro entry file ⟨_, hf, hconv⟩
    exact (converted_of_fileToSchema? hconv).subperm_keys (hs file hf)
  have hsub := subperm_flatMap hsubperm
  have hdescriptors : (descriptors.mapIdx fun i decl => (i, decl)).map Prod.snd = descriptors :=
    List.ext_getElem (by simp) (by simp)
  have hflat : (descriptors.mapIdx fun i decl => (i, decl)).flatMap
      (fun entry => entry.2.elementNames.keys) =
      descriptors.flatMap fun decl => decl.elementNames.keys := by
    conv_rhs => rw [← hdescriptors, List.flatMap_map]
  rw [hflat] at hsub
  obtain ⟨keys, hperm, hsublist⟩ := hsub
  exact hperm.nodup_iff.mp (hnames.sublist hsublist)

theorem exists_leads (hm : symbol ∈ linked.pool.symbols) (ht : symbol.meaning.isType = true) :
    ∃ node, Leads linked files symbol node := by
  rw [(pool_of_ofFiles? hlinked).1] at hm
  obtain ⟨decl, hd, hname⟩ := mem_symbolsOf.mp hm
  obtain ⟨file, hf, hconv⟩ := exists_file_of_decl hlinked hfiles hd
  have hmem := List.mem_of_getElem? hf
  rw [FileDecl.names_eq, List.mem_append] at hname
  rcases hname with hname | hname
  · have hpackage := isPackage_of_mem_packageNames hname
    cases hmeaning : symbol.meaning <;> simp_all [Meaning.isPackage, Meaning.isType]
  · obtain ⟨node, hnode, hdecl⟩ := hconv.exists_node (hs file hmem) hname ht
    refine ⟨node, hnode, file, hf, ?_⟩
    exact (Catalog.get?_elements_iff_of_nodup (nodup_keys hlinked hfiles hs)).mpr ⟨hmem, hdecl⟩

theorem messageReference {scope written : String}
    (h : linked.pool.resolve? (linked.pool.visible index) Meaning.isMessage scope written =
      some symbol) :
    MessageReference linked files index scope written (absolute symbol.name) := by
  obtain ⟨hm, hmessage⟩ := mem_symbols_of_resolve? h
  have htype : symbol.meaning.isType = true := by
    cases hmeaning : symbol.meaning <;> simp_all [Meaning.isMessage, Meaning.isType]
  obtain ⟨node, hl⟩ := exists_leads hlinked hfiles hs hm htype
  obtain ⟨message, rfl⟩ := hl.exists_message hmessage
  exact ⟨symbol, message, h, rfl, hl⟩

theorem methodReferences {file : Schema.File} (hf : files[index]? = some file) {name : String}
    {method : Method} (hm : (name, Node.method method) ∈ file.declarations) :
    MethodReferences linked files index name method := by
  obtain ⟨decl, hd, hconv⟩ := exists_decl_of_file hlinked hfiles hf
  obtain ⟨service, hservice, methodDecl, hmethod, rfl, hschema⟩ :=
    hconv.exists_method_decl (hs file (List.mem_of_getElem? hf)) hm
  obtain ⟨_, ⟨input, hi, hinput⟩, output, ho, houtput⟩ := exists_symbols_of_methodToSchema? hschema
  refine ⟨decl, service, methodDecl, ?_, hservice, hmethod, _, rfl, rfl, ?_, ?_⟩
  · rw [(pool_of_ofFiles? hlinked).1]
    exact hd
  · rw [hinput]
    exact messageReference hlinked hfiles hs hi
  · rw [houtput]
    exact messageReference hlinked hfiles hs ho

theorem fieldReference {file : Schema.File} (hf : files[index]? = some file) {name : String}
    {field : Field} (hm : (name, Node.field field) ∈ file.declarations) :
    FieldReference linked files index name field := by
  obtain ⟨decl, hd, hconv⟩ := exists_decl_of_file hlinked hfiles hf
  obtain ⟨scope, owner, howner, fieldDecl, hfield, rfl, hschema⟩ :=
    hconv.exists_field_decl (hs file (List.mem_of_getElem? hf)) hm
  refine ⟨scope, owner, fieldDecl, ?_, hfield, _, rfl, rfl, ?_⟩
  · rw [(pool_of_ofFiles? hlinked).1]
    refine mem_symbolsOf.mpr ⟨decl, hd, ?_⟩
    rw [FileDecl.names_eq]
    exact List.mem_append_right _ howner
  · obtain ⟨type, htype, rfl⟩ := fieldToSchema?_eq_some_iff.mp hschema
    obtain ⟨kind, hmessage, henum, rfl⟩ | ⟨written, symbol, hw, hr, hcase⟩ := fieldType?_cases htype
    · exact .scalar hmessage henum rfl
    · obtain ⟨hsymbol, hwanted⟩ := mem_symbols_of_resolve? hr
      obtain ⟨node, hl⟩ := exists_leads hlinked hfiles hs hsymbol hwanted
      obtain ⟨hmessage, rfl⟩ | ⟨henum, values, rfl⟩ := hcase
      · obtain ⟨message, rfl⟩ := hl.exists_message hmessage
        exact .message rfl hw hr rfl hl
      · obtain ⟨enum, rfl⟩ := hl.exists_enum henum
        exact .enum rfl hw hr rfl hl

end

end ClientGen.Proto
