import ClientGen.Proofs.Catalog.Names
import ClientGen.Proto.ToSchema
import Mathlib.Tactic.Convert

namespace ClientGen.Proto

open Linked (absolute)
open Schema (memberName scopeOfPackage)

/-- Induction over the nesting of declared messages. -/
@[elab_as_elim]
theorem MessageDecl.nesting {motive : MessageDecl → Prop}
    (step : ∀ decl : MessageDecl, (∀ inner ∈ decl.messages, motive inner) → motive decl)
    (decl : MessageDecl) : motive decl := by
  refine @MessageDecl.rec motive (fun decls => ∀ inner ∈ decls, motive inner)
    ?message ?nil ?cons decl
  case message =>
    intro name fields messages enums oneofs ranges reserved extensions isMapEntry options
    exact step ⟨name, fields, messages, enums, oneofs, ranges, reserved, extensions, isMapEntry,
      options⟩
  case nil => simp
  case cons =>
    intro first decls ihfirst ih inner hm
    rcases List.mem_cons.mp hm with rfl | hm
    · exact ihfirst
    · exact ih inner hm

theorem qualified_ne_empty {scope name : String} (h : name ≠ "") : qualified scope name ≠ "" := by
  unfold qualified
  split
  · exact h
  · simp

theorem absolute_injective : Function.Injective absolute := by
  intro a b h
  have hlist : '.' :: a.toList = '.' :: b.toList := by simpa [absolute] using congrArg String.toList h
  exact String.toList_injective (List.cons.inj hlist).2

def Names.keys (names : Names) : List String :=
  names.map fun entry => absolute entry.1

theorem memberName_scopeOfPackage (scope name : String) :
    memberName (scopeOfPackage scope) name = absolute (qualified scope name) := by
  unfold memberName scopeOfPackage qualified absolute
  split
  · exact String.empty_append ▸ rfl
  · simp only [String.append_assoc]

theorem scopeOfPackage_eq {scope : String} (h : scope ≠ "") :
    scopeOfPackage scope = absolute scope := by
  unfold scopeOfPackage
  rw [if_neg (by simpa using h)]
  rfl

theorem messagesNames_eq_flatMap (scope : String) (decls : List MessageDecl) :
    messagesNames scope decls = decls.flatMap (messageNames scope) := by
  induction decls with
  | nil => rfl
  | cons decl decls ih => rw [messagesNames, ih, List.flatMap_cons]

theorem messageNames_eq (scope : String) (decl : MessageDecl) :
    messageNames scope decl =
      (qualified scope decl.name, .message decl) ::
        (plainNames (qualified scope decl.name) .field (decl.fields.map (·.name)) ++
          plainNames (qualified scope decl.name) .oneof (decl.oneofs.map (·.name)) ++
          decl.messages.flatMap (messageNames (qualified scope decl.name)) ++
          decl.enums.flatMap (enumNames (qualified scope decl.name)) ++
          extensionNames (qualified scope decl.name) decl.extensions) := by
  cases decl
  rw [messageNames, messagesNames_eq_flatMap]

section

variable {scope : String} {entry : String × Meaning}

theorem meaning_of_mem_plainNames {meaning : Meaning} {names : List String}
    (h : entry ∈ plainNames scope meaning names) : entry.2 = meaning := by
  obtain ⟨_, _, rfl⟩ := List.mem_map.mp h
  rfl

theorem isPackage_of_mem_enumNames {enum : EnumDecl} (h : entry ∈ enumNames scope enum) :
    entry.2.isPackage = false := by
  rcases List.mem_cons.mp h with rfl | h
  · rfl
  · rw [meaning_of_mem_plainNames h]
    rfl

theorem isPackage_of_mem_extensionNames {extensions : List FieldDecl}
    (h : entry ∈ extensionNames scope extensions) : entry.2.isPackage = false := by
  obtain ⟨_, _, rfl⟩ := List.mem_map.mp h
  rfl

theorem isPackage_of_mem_messageNames {decl : MessageDecl} (h : entry ∈ messageNames scope decl) :
    entry.2.isPackage = false := by
  induction decl using MessageDecl.nesting generalizing scope with
  | step decl ih =>
    rw [messageNames_eq] at h
    simp only [List.mem_cons, List.mem_append, List.mem_flatMap] at h
    rcases h with rfl | (((h | h) | ⟨inner, hi, h⟩) | ⟨enum, _, h⟩) | h
    · rfl
    · rw [meaning_of_mem_plainNames h]
      rfl
    · rw [meaning_of_mem_plainNames h]
      rfl
    · exact ih inner hi h
    · exact isPackage_of_mem_enumNames h
    · exact isPackage_of_mem_extensionNames h

theorem isPackage_of_mem_serviceNames {service : ServiceDecl}
    (h : entry ∈ serviceNames scope service) : entry.2.isPackage = false := by
  rcases List.mem_cons.mp h with rfl | h
  · rfl
  · rw [meaning_of_mem_plainNames h]
    rfl

def FileDecl.elementNames (file : FileDecl) : Names :=
  file.messages.flatMap (messageNames file.package) ++
    file.enums.flatMap (enumNames file.package) ++
    file.services.flatMap (serviceNames file.package) ++
    extensionNames file.package file.extensions

theorem FileDecl.names_eq (file : FileDecl) :
    file.names = packageNames file.package ++ file.elementNames := by
  simp only [names, elementNames, messagesNames_eq_flatMap, List.append_assoc]

theorem isPackage_of_mem_elementNames {file : FileDecl} (h : entry ∈ file.elementNames) :
    entry.2.isPackage = false := by
  simp only [FileDecl.elementNames, List.mem_append, List.mem_flatMap] at h
  rcases h with ((⟨_, _, h⟩ | ⟨_, _, h⟩) | ⟨_, _, h⟩) | h
  · exact isPackage_of_mem_messageNames h
  · exact isPackage_of_mem_enumNames h
  · exact isPackage_of_mem_serviceNames h
  · exact isPackage_of_mem_extensionNames h

theorem isPackage_of_mem_packageNames {package : String} (h : entry ∈ packageNames package) :
    entry.2.isPackage = true := by
  unfold packageNames at h
  split at h
  · cases h
  · obtain ⟨_, _, rfl⟩ := List.mem_map.mp h
    rfl

end

section

variable {files : List FileDecl} {symbols : List Symbol} {symbol : Symbol}

theorem nodup_of_noClash (h : noClash symbols = true) :
    ((symbols.filter (!·.meaning.isPackage)).map (·.name)).Nodup := by
  induction symbols with
  | nil => exact List.nodup_nil
  | cons symbol symbols ih =>
    rw [noClash, Bool.and_eq_true, Bool.not_eq_true', List.any_eq_false] at h
    obtain ⟨hfirst, hrest⟩ := h
    rw [List.filter_cons]
    split
    · rename_i hp
      rw [List.map_cons, List.nodup_cons]
      refine ⟨fun hm => ?_, ih hrest⟩
      obtain ⟨other, ho, hname⟩ := List.mem_map.mp hm
      refine hfirst other (List.mem_of_mem_filter ho) ?_
      rw [Bool.not_eq_true'] at hp
      simp [Symbol.clashes, hname, hp]
    · exact ih hrest

theorem mem_symbolsOf : symbol ∈ symbolsOf files ↔
    ∃ file, files[symbol.file]? = some file ∧ (symbol.name, symbol.meaning) ∈ file.names := by
  unfold symbolsOf
  rw [List.mem_flatten]
  constructor
  · rintro ⟨group, hg, hs⟩
    obtain ⟨i, hi, rfl⟩ := List.mem_mapIdx.mp hg
    obtain ⟨⟨name, meaning⟩, hn, rfl⟩ := List.mem_map.mp hs
    exact ⟨files[i], List.getElem?_eq_getElem hi, hn⟩
  · rintro ⟨file, hf, hn⟩
    obtain ⟨hi, rfl⟩ := List.getElem?_eq_some_iff.mp hf
    exact ⟨_, List.mem_mapIdx.mpr ⟨symbol.file, hi, rfl⟩, List.mem_map.mpr ⟨_, hn, rfl⟩⟩

theorem filter_names (file : FileDecl) (index : Nat) :
    ((file.names.map fun (name, meaning) => (⟨name, meaning, index⟩ : Symbol)).filter
      (!·.meaning.isPackage)).map (·.name) = file.elementNames.map Prod.fst := by
  have hpackages : (packageNames file.package).filter (!·.2.isPackage) = [] := by
    rw [List.filter_eq_nil_iff]
    intro entry he
    simp [isPackage_of_mem_packageNames he]
  have helements : file.elementNames.filter (!·.2.isPackage) = file.elementNames := by
    rw [List.filter_eq_self]
    intro entry he
    simp [isPackage_of_mem_elementNames he]
  rw [List.filter_map, List.map_map, FileDecl.names_eq]
  change ((packageNames file.package ++ file.elementNames).filter (!·.2.isPackage)).map Prod.fst = _
  rw [List.filter_append, hpackages, helements, List.nil_append]

/-- If no names clash, no element is declared twice. -/
theorem nodup_elementNames (h : noClash (symbolsOf files) = true) :
    (files.flatMap fun file => file.elementNames.map Prod.fst).Nodup := by
  have hsymbols := nodup_of_noClash h
  rw [symbolsOf, List.filter_flatten, List.map_flatten] at hsymbols
  rw [List.flatMap]
  convert hsymbols using 2
  refine List.ext_getElem (by simp) fun i _ _ => ?_
  rw [List.getElem_map, List.getElem_map, List.getElem_map, List.getElem_mapIdx, filter_names]

end

end ClientGen.Proto
