import ClientGen.Catalog.Declaration
import ClientGen.Catalog.Table
import ClientGen.Fault

namespace ClientGen

open Schema

structure Declaration where
  node : Node
  file : File

/-- What a schema declares: its files, its elements, and the comments on services and methods. -/
structure Catalog where
  files : Table File
  elements : Table Declaration
  comments : Table String

namespace Catalog

def empty : Catalog := ⟨.empty, .empty, .empty⟩

def at? {α : Type} (items : List α) (position : Int) : Option α :=
  if position < 0 then none else items[position.toNat]?

def target? (file : File) (path : List Int32) : Option String :=
  match path.map Int32.toInt with
  | [6, s] => (at? file.services s).map fun service => service.fullName file
  | [6, s, 2, m] => do
    let service ← at? file.services s
    let method ← at? service.methods m
    return memberName (service.fullName file) method.name
  | _ => none

def comments? (file : File) : List (String × String) :=
  file.locations.filterMap fun location => do
    let comment ← location.leadingComments
    let name ← target? file location.path
    return (name, comment)

def addFile (catalog : Catalog) (file : File) : Catalog where
  files := catalog.files.insert file.name file
  elements := catalog.elements.insertAll
    (file.declarations.map fun (name, node) => (name, ⟨node, file⟩))
  comments := catalog.comments.insertAll (comments? file)

def ofFiles (files : List File) : Catalog :=
  files.foldl addFile empty

variable (catalog : Catalog)

def file? (name : String) : Option File :=
  catalog.files.get? name

def node? (name : String) : Option Node :=
  (catalog.elements.get? name).map (·.node)

def message (name : String) : Except Fault Message :=
  match catalog.node? name with
  | some (.message message) => .ok message
  | some node => .error (.wrongNode name node.label)
  | none => .error (.unknownType name)

def owningFile (name : String) : Except Fault File :=
  match catalog.elements.get? name with
  | some declaration => .ok declaration.file
  | none => .error (.undeclared name)

def comment? (name : String) : Option String :=
  catalog.comments.get? name

end Catalog

end ClientGen
