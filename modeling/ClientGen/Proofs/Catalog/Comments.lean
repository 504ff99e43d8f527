import ClientGen.Client.GoType
import ClientGen.Proofs.Catalog.Lookup

namespace ClientGen

open Schema

def Schema.File.unlocated (file : File) : File :=
  { file with locations := [] }

def Declaration.unlocated (declaration : Declaration) : Declaration :=
  { declaration with file := declaration.file.unlocated }

/-- What two catalogs declare differs in comments alone. -/
structure Catalog.Same (c d : Catalog) : Prop where
  files : ∀ name, (c.file? name).map File.unlocated = (d.file? name).map File.unlocated
  elements : ∀ name, (c.elements.get? name).map Declaration.unlocated =
    (d.elements.get? name).map Declaration.unlocated

theorem Table.map_lookup {α β : Type} (f : α → β) (entries : List (String × α)) (name : String) :
    (entries.lookup name).map f = (entries.map fun (key, value) => (key, f value)).lookup name := by
  induction entries with
  | nil => rfl
  | cons entry entries ih =>
    obtain ⟨key, value⟩ := entry
    rw [List.map_cons, lookup_entry, lookup_entry, ← ih]
    split <;> rfl

namespace Catalog

variable {c d : Catalog} {files others : List File} {file other : File} {name : String}

theorem map_file?_ofFiles (files : List File) (name : String) :
    ((ofFiles files).file? name).map File.unlocated =
    (ofFiles (files.map File.unlocated)).file? name := by
  rw [file?_ofFiles, file?_ofFiles, Table.map_lookup, List.map_reverse, List.map_map, List.map_map]
  rfl

theorem map_get?_elements_ofFiles (files : List File) (name : String) :
    ((ofFiles files).elements.get? name).map Declaration.unlocated =
      (ofFiles (files.map File.unlocated)).elements.get? name := by
  rw [get?_elements_ofFiles, get?_elements_ofFiles, Table.map_lookup, List.map_reverse,
    declarationsOf, declarationsOf, List.map_flatMap, List.flatMap_map]
  simp only [List.map_map]
  rfl

theorem same_ofFiles (h : files.map File.unlocated = others.map File.unlocated) :
    (ofFiles files).Same (ofFiles others) where
  files name := by rw [map_file?_ofFiles, h, map_file?_ofFiles]
  elements name := by rw [map_get?_elements_ofFiles, h, map_get?_elements_ofFiles]

theorem ofFile_eq_of_unlocated_eq (h : file.unlocated = other.unlocated) :
    ClientImport.ofFile file = ClientImport.ofFile other := by
  have hbare (file : File) : ClientImport.ofFile file = ClientImport.ofFile file.unlocated := rfl
  rw [hbare file, hbare other, h]

theorem Same.message (h : c.Same d) : c.message = d.message := by
  have hnode : c.node? = d.node? := by
    funext name
    have hmap := congrArg (Option.map Declaration.node) (h.elements name)
    rw [Option.map_map, Option.map_map] at hmap
    exact hmap
  funext name
  rw [Catalog.message, Catalog.message, hnode]

theorem Same.goType (h : c.Same d) : c.goType = d.goType := by
  funext name
  have hname := h.elements name
  unfold Catalog.goType owningFile
  cases hc : c.elements.get? name with
  | none =>
    rw [hc, Option.map_none, eq_comm, Option.map_eq_none_iff] at hname
    rw [hname]
  | some declaration =>
    rw [hc, Option.map_some, eq_comm, Option.map_eq_some_iff] at hname
    obtain ⟨other, hd, ho⟩ := hname
    have hfile : other.file.unlocated = declaration.file.unlocated := congrArg Declaration.file ho
    have hname (file : File) : GoType.nameIn? file name = GoType.nameIn? file.unlocated name := rfl
    have hpackage (file : File) : file.package = file.unlocated.package := rfl
    rw [hd]
    change (ClientImport.ofFile declaration.file >>= _) = (ClientImport.ofFile other.file >>= _)
    rw [ofFile_eq_of_unlocated_eq hfile, hname declaration.file, hname other.file,
      hpackage declaration.file, hpackage other.file, hfile]

end Catalog

end ClientGen
