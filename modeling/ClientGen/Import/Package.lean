import ClientGen.Fault
import ClientGen.Import.Spec
import ClientGen.Schema.Types
import ClientGen.Text.Blank
import ClientGen.Text.Split

namespace ClientGen

open Text Schema

namespace ImportSpec

/-- The name that a package hint without a name stands for: the package segment of its path without
hyphens and dots. -/
def derivedName? (path : String) : Option String :=
  let name := (packageSegment? path.toList).map (·.filter fun c => c != '-' && c != '.')
  (name.filter (!·.isEmpty)).map .ofList

def ofFile (file : File) : Except Fault ImportSpec :=
  let hint := (file.goPackage.map trimmed).getD ""
  if hint.isEmpty then .error (.noPackageHint file.name)
  else
    let (path, name) := match cut ';' hint with
      | some (path, name) => (trimmed path, trimmed name)
      | none => (hint, "")
    if path.isEmpty then .error (.emptyImportPath file.name)
    else if !name.isEmpty then .ok ⟨name, path⟩
    else match derivedName? path with
      | some name => .ok ⟨name, path⟩
      | none => .error (.noPackageName path file.name)

end ImportSpec

end ClientGen
