import ClientGen.Fault
import ClientGen.Text.Blank
import ClientGen.Text.Split

namespace ClientGen

open Text

structure Options where
  /-- The import path of the generated package. -/
  pkgPath : String
  pkgName : String
  /-- What is taken off the front of `pkgPath` to name the output directory. -/
  moduleRoot : Option String := none
  copyrightYear : Option Int32 := none
deriving DecidableEq, Repr

inductive Setting
  | package (path name : String)
  | moduleRoot (root : String)
  | copyrightYear (year : Int32)
deriving DecidableEq, Repr

namespace Setting

def readPackage (value : String) : Except Fault Setting :=
  match cut ';' value with
  | some (path, name) =>
    if (trimmed path).isEmpty || (trimmed name).isEmpty then .error (.badPackage value)
    else .ok (.package (trimmed path) (trimmed name))
  | none => .error (.badPackage value)

def readYear (value : String) : Except Fault Setting :=
  match readInt32 (trimmed value).toList with
  | .ok year => .ok (.copyrightYear year)
  | .error fault => .error (.badYear value fault)

def read (part : String) : Except Fault Setting :=
  match cut '=' part with
  | none => .error (.notKeyValue part)
  | some (key, value) =>
    match trimmed key with
    | "go-gapic-package" => readPackage (trimmed value)
    | "module" => .ok (.moduleRoot (dropTrailing '/' (trimmed value)))
    | "copyright-year" => readYear value
    | key => .error (.unknownParameter key)

def package? : Setting → Option (String × String)
  | .package path name => some (path, name)
  | _ => none

def moduleRoot? : Setting → Option String
  | .moduleRoot root => some root
  | _ => none

def copyrightYear? : Setting → Option Int32
  | .copyrightYear year => some year
  | _ => none

end Setting

namespace Options

/-- The parts of a parameter text that say something. -/
def parts (parameter : String) : List String :=
  ((pieces ',' parameter).map trimmed).filter (!·.isEmpty)

/-- Of settings of one kind the last holds. -/
def ofSettings (settings : List Setting) : Except Fault Options :=
  match (settings.filterMap Setting.package?).getLast? with
  | none => .error .noPackageParameter
  | some (path, name) => .ok {
      pkgPath := path
      pkgName := name
      moduleRoot := (settings.filterMap Setting.moduleRoot?).getLast?
      copyrightYear := (settings.filterMap Setting.copyrightYear?).getLast? }

/-- Reads a comma-separated list of `key=value` settings, of which `go-gapic-package` is
required. -/
def parse (parameter : Option String) : Except Fault Options := do
  ofSettings (← (parts (parameter.getD "")).mapM Setting.read)

/-- The directory of the generated files, relative to the output root. -/
def outputDir (options : Options) : String :=
  match options.moduleRoot with
  | none => options.pkgPath
  | some root =>
    if root.isEmpty then options.pkgPath
    else ((after? root options.pkgPath).map (dropLeading '/')).getD options.pkgPath

def outputFile (options : Options) (name : String) : String :=
  let dir := options.outputDir
  if dir.isEmpty then name else dir ++ "/" ++ name

end Options

end ClientGen
