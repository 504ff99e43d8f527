import ClientGen.Proofs.Client.Declarations
import ClientGen.Proofs.Client.Pages
import Mathlib.Data.List.Nodup

namespace ClientGen

open Schema

namespace PageElement

variable {catalog : Catalog} {p q : PageElement}

def scalars : List (String × String) := [
  ("float64", "Float64"), ("float32", "Float32"), ("int64", "Int64"), ("uint64", "Uint64"),
  ("int32", "Int32"), ("uint32", "Uint32"), ("bool", "Bool"), ("string", "String"),
  ("[]byte", "Bytes")]

theorem mem_scalars {kind : FieldKind} {scalar : String × String} (h : kind.scalar? = some scalar) :
    scalar ∈ scalars := by
  cases kind <;> cases h <;> decide

theorem scalar_eq_of_stem_eq : ∀ a ∈ scalars, ∀ b ∈ scalars, a.2 = b.2 → a = b := by
  decide

theorem mem_scalars_of_ofField {field : Field} {goType stem : String}
    (h : ofField field = .ok (.scalar goType stem)) : (goType, stem) ∈ scalars := by
  unfold ofField at h
  split at h
  · rename_i hs
    cases h
    exact mem_scalars hs
  · split at h
    · cases h
    · split at h <;> cases h

/-- The Go type of a page element, whatever its package is called where it is used: a pointer to a
type of the package with a path, or a type that Go has itself. -/
inductive GoElement
  | pointer (path name : String)
  | basic (goType : String)
deriving DecidableEq, Repr

def type (catalog : Catalog) : PageElement → Except Fault GoElement
  | .message typeName => (fun type => .pointer type.spec.path type.name) <$> catalog.goType typeName
  | .scalar goType _ => .ok (.basic goType)

/-- Whether the iterators over two page elements have the same name and different Go types: messages
with the same simple name, or a message that is named as a scalar's iterator begins. -/
def Clash (catalog : Catalog) : PageElement → PageElement → Prop
  | .message s, .message t =>
    simpleName s = simpleName t ∧ (message s).type catalog ≠ (message t).type catalog
  | .message s, .scalar _ stem => simpleName s = stem
  | .scalar _ stem, .message t => stem = simpleName t
  | .scalar .., .scalar .. => False

theorem type_message_ne_scalar (typeName goType stem : String) :
    (message typeName).type catalog ≠ (scalar goType stem).type catalog := by
  rw [type, type]
  cases catalog.goType typeName <;> simp [Functor.map, Except.map]

theorem clash_iff (hp : ∃ field, ofField field = .ok p) (hq : ∃ field, ofField field = .ok q) :
    p.Clash catalog q ↔ p.iteratorName = q.iteratorName ∧ p.type catalog ≠ q.type catalog := by
  obtain ⟨_, hp⟩ := hp
  obtain ⟨_, hq⟩ := hq
  cases p with
  | message s =>
    cases q with
    | message t => simp [Clash, iteratorName, String.append_left_inj]
    | scalar goType stem =>
      simp [Clash, iteratorName, String.append_left_inj, type_message_ne_scalar]
  | scalar goType stem =>
    cases q with
    | message t =>
      simp [Clash, iteratorName, String.append_left_inj, (type_message_ne_scalar _ _ _).symm]
    | scalar goType' stem' =>
      have heq := scalar_eq_of_stem_eq _ (mem_scalars_of_ofField hp) _ (mem_scalars_of_ofField hq)
      simp only [Clash, iteratorName, String.append_left_inj, false_iff, not_and, not_not]
      intro hstem
      cases heq hstem
      rfl

end PageElement

namespace Client

variable {catalog : Catalog} {options : Options} {names : List String} {clients : List Client}

theorem forall₂_pages_of_run (h : Run.clients catalog options names = .ok clients) {client : Client}
    (hc : client ∈ clients) :
    List.Forall₂ (fun page element => Element.resolve catalog page = .ok element)
      (pages catalog client.service) client.elements := by
  obtain ⟨_, _, _, _, _, _, hr⟩ := Run.exists_resolved h hc
  rw [hr.service_eq]
  exact hr.forall₂_pages

def declared (clients : List Client) : List Element :=
  newElements [] (clients.flatMap (·.elements))

theorem declared_sublist (clients : List Client) :
    (declared clients).Sublist (clients.flatMap (·.elements)) :=
  newElements_sublist _ _

theorem count_declared {client : Client} (hc : client ∈ clients) {element : Element}
    (he : element ∈ client.elements) : (iterators (declared clients)).count element.iterator = 1 := by
  rw [declared]
  refine List.count_eq_one_of_mem (nodup_iterators_newElements _ _) ?_
  rw [mem_iterators_newElements]
  refine ⟨?_, by simp⟩
  exact List.mem_map_of_mem (List.mem_flatMap_of_mem hc he)

/-- A library that lists its own books, and the messages that an archive calls `name`. -/
def libraryFiles (name : String) : List File := [
  { name := "archive.proto"
    package := "archive"
    goPackage := some "example.com/archive;archivepb"
    messages := [{ name }] },
  { name := "library.proto"
    package := "library"
    goPackage := some "example.com/library;librarypb"
    messages := [
      { name := "Book" },
      { name := "ListRequest"
        fields := [
          { name := "page_size", number := 1, kind := .int32 },
          { name := "page_token", number := 2, kind := .string }] },
      listResponse "ListBooksResponse" ".library.Book",
      listResponse "ListArchiveResponse" (".archive." ++ name)]
    services := [
      { name := "Library"
        defaultHost := some "library.example.com"
        methods := [listMethod "ListBooks", listMethod "ListArchive"] }] }]
where
  listResponse (name typeName : String) : Message :=
    { name
      fields := [
        { name := "items", number := 1, kind := .message, repeated := true,
          typeName := some typeName },
        { name := "next_page_token", number := 2, kind := .string }] }
  listMethod (name : String) : Method :=
    { name, inputType := ".library.ListRequest", outputType := ".library." ++ name ++ "Response" }

def libraryOptions : Options := { pkgPath := "example.com/library/apiv1", pkgName := "library" }

def bookElement : Element :=
  ⟨"BookIterator", "*librarypb.Book", [⟨"librarypb", "example.com/library"⟩]⟩

def archiveElement (name : String) : Element :=
  ⟨name ++ "Iterator", "*archivepb." ++ name, [⟨"archivepb", "example.com/archive"⟩]⟩

end Client

end ClientGen
