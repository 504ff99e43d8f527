import ClientGen.Catalog.Basic
import ClientGen.Import.Client

namespace ClientGen

open Schema Text

structure GoType where
  spec : ImportSpec
  name : String
deriving DecidableEq, Repr

namespace GoType

def render (type : GoType) : String :=
  type.spec.name ++ "." ++ type.name

/-- The Go name of an element: its full name within the package, with underscores for dots. -/
def nameIn? (file : File) (fullName : String) : Option String := do
  let inner := dropLeading '.' (← after? file.scope fullName)
  if inner.isEmpty then none
  else some (.ofList (inner.toList.map fun c => if c = '.' then '_' else c))

end GoType

def Catalog.goType (catalog : Catalog) (fullName : String) : Except Fault GoType := do
  let file ← catalog.owningFile fullName
  let spec ← ClientImport.ofFile file
  match GoType.nameIn? file fullName with
  | some name => return ⟨spec, name⟩
  | none => throw (.outsidePackage fullName file.package)

end ClientGen
