import ClientGen.Proofs.Catalog.Last
import ClientGen.Proofs.Client.Resolved

namespace ClientGen

open Schema

section

variable {message : Message} {service : Service} {file : File} {place : Place} {names : List String}
  {node : Node}

/-- All simple names that lead to an element are names of declared elements. -/
theorem Schema.Message.Holds.exists_entry (h : message.Holds place names node) (scope : String) :
    ∀ name ∈ names, ∃ entry ∈ messageDeclarations scope message, entry.2.name = name := by
  have hself {message : Message} (scope : String) :
      ∃ entry ∈ messageDeclarations scope message, entry.2.name = message.name :=
    ⟨_, mem_messageDeclarations_self scope message, rfl⟩
  induction h generalizing scope with
  | field hi =>
    have hfield := field_mem_messageDeclarations scope (List.mem_of_getElem? hi)
    exact List.forall_mem_cons.mpr ⟨hself scope, List.forall_mem_singleton.mpr ⟨_, hfield, rfl⟩⟩
  | nested hi _ ih =>
    refine List.forall_mem_cons.mpr ⟨hself scope, fun name hn => ?_⟩
    obtain ⟨entry, he, hname⟩ := ih _ name hn
    exact ⟨entry, nested_mem_messageDeclarations scope (List.mem_of_getElem? hi) he, hname⟩
  | enum hi =>
    have henum := enum_mem_messageDeclarations scope (List.mem_of_getElem? hi)
    exact List.forall_mem_cons.mpr ⟨hself scope, List.forall_mem_singleton.mpr ⟨_, henum, rfl⟩⟩
  | itself => exact List.forall_mem_singleton.mpr (hself scope)

theorem Schema.File.Holds.exists_entry (h : file.Holds place names node) :
    ∀ name ∈ names, ∃ entry ∈ file.declarations, entry.2.name = name := by
  cases h with
  | message hi hm =>
    intro name hn
    obtain ⟨entry, he, hname⟩ := hm.exists_entry file.scope name hn
    exact ⟨entry, File.mem_declarations.mpr (.inl ⟨_, List.mem_of_getElem? hi, he⟩), hname⟩
  | enum hi =>
    have henum := File.enum_mem_declarations (List.mem_of_getElem? hi)
    exact List.forall_mem_singleton.mpr ⟨_, henum, rfl⟩
  | service hi hs =>
    have hself := File.service_mem_declarations (List.mem_of_getElem? hi)
    cases hs with
    | method hm =>
      have hmethod := File.method_mem_declarations (List.mem_of_getElem? hi) (List.mem_of_getElem? hm)
      exact List.forall_mem_cons.mpr
        ⟨⟨_, hself, rfl⟩, List.forall_mem_singleton.mpr ⟨_, hmethod, rfl⟩⟩
    | itself => exact List.forall_mem_singleton.mpr ⟨_, hself, rfl⟩

theorem Schema.File.Holds.mem_declarations (h : file.Holds place names node) :
    (fullName file.package names, node) ∈ file.declarations := by
  refine file.enumerates.mem_iff.mpr ⟨place, names, h, ?_⟩
  exact (foldl_memberName_scope file.package h.names_ne_nil).symm

end

theorem intercalate_cons_eq_flatMap {α : Type} (sep part : List α) (parts : List (List α)) :
    sep.intercalate (part :: parts) = part ++ parts.flatMap (sep ++ ·) := by
  induction parts generalizing part with
  | nil => simp
  | cons next parts ih =>
    rw [List.intercalate_cons_cons, ih, List.flatMap_cons]
    simp only [List.append_assoc]

namespace GoType

def underscored (c : Char) : Char :=
  if c = '.' then '_' else c

theorem map_underscored {name : String} (h : IsSegment name) :
    name.toList.map underscored = name.toList := by
  refine (List.map_congr_left fun c hc => ?_).trans (List.map_id _)
  rw [underscored, if_neg]
  · rfl
  · rintro rfl
    exact h.2 hc

/-- The Go name of an element joins the names that lead to it. -/
theorem nameIn?_fullName (file : File) {names : List String} (hne : names ≠ [])
    (h : ∀ name ∈ names, IsSegment name) :
    nameIn? file (fullName file.package names) = some ("_".intercalate names) := by
  obtain ⟨first, rest, rfl⟩ := List.exists_cons_of_ne_nil hne
  obtain ⟨hfirst, hrest⟩ := List.forall_mem_cons.mp h
  have hmap : (first.toList ++ rest.flatMap fun name => '.' :: name.toList).map underscored =
      first.toList ++ rest.flatMap fun name => '_' :: name.toList := by
    rw [List.map_append, List.map_flatMap, map_underscored hfirst]
    congr 1
    refine List.flatMap_congr fun name hn => ?_
    rw [List.map_cons, map_underscored (hrest name hn)]
    rfl
  rw [← foldl_memberName_scope file.package hne, List.foldl_cons]
  refine (nameIn?_foldl file hfirst rest).trans (congrArg some (String.toList_inj.mp ?_))
  rw [String.toList_ofList, String.toList_intercalate, List.map_cons, intercalate_cons_eq_flatMap,
    List.flatMap_map]
  exact hmap

end GoType

namespace Catalog

variable {files : List File} {file : File} {place : Place} {names : List String} {node : Node}

/-- The Go type of an element is in the package of the file that declares it. -/
theorem goType_of_holds (helements : (files.flatMap (·.declarations.map Prod.fst)).Nodup)
    (hf : file ∈ files) (hsegments : file.HasSegments) (h : file.Holds place names node) :
    (ofFiles files).goType (fullName file.package names) =
      (ClientImport.ofFile file).map fun spec => ⟨spec, "_".intercalate names⟩ := by
  have howner : (ofFiles files).owningFile (fullName file.package names) = .ok file :=
    owningFile_eq_ok_iff.mpr
      ⟨node, (get?_elements_iff_of_nodup helements).mpr ⟨hf, h.mem_declarations⟩⟩
  have hname : GoType.nameIn? file (fullName file.package names) = some ("_".intercalate names) := by
    refine GoType.nameIn?_fullName file h.names_ne_nil fun name hn => ?_
    obtain ⟨entry, he, rfl⟩ := h.exists_entry name hn
    exact hsegments entry he
  cases hspec : ClientImport.ofFile file with
  | ok spec => exact goType_eq_ok_iff.mpr ⟨file, howner, hspec, hname⟩
  | error fault =>
    rw [goType, howner]
    change (ClientImport.ofFile file >>= _) = _
    rw [hspec]
    rfl

end Catalog

end ClientGen
