import ClientGen.Catalog.Basic
import Mathlib.Data.List.Nodup

namespace ClientGen

open Schema

namespace Table

variable {α : Type}

/-- Of several entries for a name the last one counts. -/
theorem get?_insertAll (table : Table α) (entries : List (String × α)) (name : String) :
    (table.insertAll entries).get? name = (entries.reverse.lookup name).or (table.get? name) := by
  induction entries generalizing table with
  | nil => rfl
  | cons entry entries ih =>
    obtain ⟨key, held⟩ := entry
    have hstep : table.insertAll ((key, held) :: entries) =
        (table.insert key held).insertAll entries := rfl
    rw [hstep, ih, get?_insert, List.reverse_cons, List.lookup_append, lookup_entry, Option.or_assoc]
    split <;> simp_all

theorem get?_empty_insertAll (entries : List (String × α)) (name : String) :
    (empty.insertAll entries).get? name = entries.reverse.lookup name := by
  rw [get?_insertAll]
  exact Option.or_none

section Lookup

variable {κ : Type} [BEq κ] [LawfulBEq κ] {entries : List (κ × α)} {key : κ} {value : α}

theorem mem_of_lookup (h : entries.lookup key = some value) : (key, value) ∈ entries := by
  obtain ⟨before, after, rfl, _⟩ := List.lookup_eq_some_iff.mp h
  simp

theorem lookup_eq_some_iff_of_nodup (h : (entries.map Prod.fst).Nodup) :
    entries.lookup key = some value ↔ (key, value) ∈ entries := by
  refine ⟨mem_of_lookup, fun hm => ?_⟩
  cases hl : entries.lookup key with
  | none => simpa using List.lookup_eq_none_iff.mp hl _ hm
  | some other =>
    have he := List.inj_on_of_nodup_map h (mem_of_lookup hl) hm rfl
    cases he
    rfl

theorem isSome_lookup_iff : (entries.lookup key).isSome ↔ key ∈ entries.map Prod.fst := by
  constructor
  · intro h
    obtain ⟨value, hv⟩ := Option.isSome_iff_exists.mp h
    exact List.mem_map_of_mem (mem_of_lookup hv)
  · intro h
    obtain ⟨⟨_, value⟩, hm, rfl⟩ := List.mem_map.mp h
    rw [← Option.ne_none_iff_isSome]
    intro hn
    simpa using List.lookup_eq_none_iff.mp hn _ hm

end Lookup

end Table

namespace Catalog

variable {files : List File} {file : File} {name : String} {declaration : Declaration}

def declarationsOf (files : List File) : List (String × Declaration) :=
  files.flatMap fun file => file.declarations.map fun (name, node) => (name, ⟨node, file⟩)

theorem foldl_addFile (catalog : Catalog) (files : List File) :
    files.foldl addFile catalog =
      ⟨catalog.files.insertAll (files.map fun file => (file.name, file)),
        catalog.elements.insertAll (declarationsOf files),
        catalog.comments.insertAll (files.flatMap comments?)⟩ := by
  induction files generalizing catalog with
  | nil => rfl
  | cons file files ih =>
    rw [List.foldl_cons, ih]
    simp [addFile, declarationsOf, Table.insertAll]

/-- The last file of a name counts. -/
theorem file?_ofFiles (files : List File) (name : String) :
    (ofFiles files).file? name = (files.map fun file => (file.name, file)).reverse.lookup name := by
  rw [file?, ofFiles, foldl_addFile]
  exact Table.get?_empty_insertAll _ _

/-- The last declaration of a full name counts. -/
theorem get?_elements_ofFiles (files : List File) (name : String) :
    (ofFiles files).elements.get? name = (declarationsOf files).reverse.lookup name := by
  rw [ofFiles, foldl_addFile]
  exact Table.get?_empty_insertAll _ _

theorem comment?_ofFiles (files : List File) (name : String) :
    (ofFiles files).comment? name = (files.flatMap comments?).reverse.lookup name := by
  rw [comment?, ofFiles, foldl_addFile]
  exact Table.get?_empty_insertAll _ _

theorem mem_declarationsOf :
    (name, declaration) ∈ declarationsOf files ↔
      declaration.file ∈ files ∧ (name, declaration.node) ∈ declaration.file.declarations := by
  simp only [declarationsOf, List.mem_flatMap, List.mem_map, Prod.mk.injEq]
  constructor
  · rintro ⟨file, hf, ⟨_, node⟩, hd, rfl, rfl⟩
    exact ⟨hf, hd⟩
  · rintro ⟨hf, hd⟩
    exact ⟨_, hf, _, hd, rfl, rfl⟩

theorem map_fst_declarationsOf :
    (declarationsOf files).map Prod.fst = files.flatMap (·.declarations.map Prod.fst) := by
  simp [declarationsOf, List.map_flatMap, Function.comp_def]

theorem mem_of_file? (h : (ofFiles files).file? name = some file) :
    file ∈ files ∧ file.name = name := by
  rw [file?_ofFiles] at h
  have hm := Table.mem_of_lookup h
  rw [List.mem_reverse, List.mem_map] at hm
  obtain ⟨_, hf, he⟩ := hm
  cases he
  exact ⟨hf, rfl⟩

theorem isSome_file?_iff :
    ((ofFiles files).file? name).isSome ↔ ∃ file ∈ files, file.name = name := by
  rw [file?_ofFiles, Table.isSome_lookup_iff]
  simp

theorem mem_of_get?_elements (h : (ofFiles files).elements.get? name = some declaration) :
    declaration.file ∈ files ∧ (name, declaration.node) ∈ declaration.file.declarations := by
  rw [get?_elements_ofFiles] at h
  exact mem_declarationsOf.mp (List.mem_reverse.mp (Table.mem_of_lookup h))

theorem isSome_get?_elements_iff :
    ((ofFiles files).elements.get? name).isSome ↔
      ∃ file ∈ files, ∃ node, (name, node) ∈ file.declarations := by
  rw [get?_elements_ofFiles, Table.isSome_lookup_iff, List.map_reverse, List.mem_reverse,
    map_fst_declarationsOf]
  simp

/-- Where no full name is declared twice, every declaration is found. -/
theorem get?_elements_iff_of_nodup (h : (files.flatMap (·.declarations.map Prod.fst)).Nodup) :
    (ofFiles files).elements.get? name = some declaration ↔
      declaration.file ∈ files ∧ (name, declaration.node) ∈ declaration.file.declarations := by
  rw [← map_fst_declarationsOf, ← List.nodup_reverse, ← List.map_reverse] at h
  rw [get?_elements_ofFiles, Table.lookup_eq_some_iff_of_nodup h, List.mem_reverse,
    mem_declarationsOf]

theorem file?_iff_of_nodup (h : (files.map (·.name)).Nodup) :
    (ofFiles files).file? name = some file ↔ file ∈ files ∧ file.name = name := by
  refine ⟨mem_of_file?, ?_⟩
  rintro ⟨hf, rfl⟩
  have hkeys : ((files.map fun file => (file.name, file)).reverse.map Prod.fst).Nodup := by
    rw [List.map_reverse, List.nodup_reverse, List.map_map]
    exact h
  rw [file?_ofFiles, Table.lookup_eq_some_iff_of_nodup hkeys, List.mem_reverse]
  exact List.mem_map_of_mem hf

theorem message_eq_ok_iff {catalog : Catalog} {message : Message} :
    catalog.message name = .ok message ↔
      ∃ file, catalog.elements.get? name = some ⟨.message message, file⟩ := by
  unfold Catalog.message node?
  cases hd : catalog.elements.get? name with
  | none => simp
  | some declaration =>
    obtain ⟨node, file⟩ := declaration
    cases node <;> simp

theorem owningFile_eq_ok_iff {catalog : Catalog} :
    catalog.owningFile name = .ok file ↔ ∃ node, catalog.elements.get? name = some ⟨node, file⟩ := by
  unfold owningFile
  cases hd : catalog.elements.get? name with
  | none => simp
  | some declaration =>
    obtain ⟨node, owner⟩ := declaration
    simp

end Catalog

end ClientGen
