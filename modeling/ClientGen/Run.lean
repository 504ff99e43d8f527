import ClientGen.Client.Doc
import ClientGen.Client.Iterator
import ClientGen.Client.Methods

namespace ClientGen

open Schema

structure OutputFile where
  name : String
  content : String
deriving DecidableEq, Repr

/-- The outcome of a run. If there is an error, there are no files. -/
structure Output where
  files : List OutputFile := []
  error : Option String := none
deriving DecidableEq, Repr

namespace Client

def fileName (options : Options) (client : Client) : String :=
  options.outputFile (Text.snakeCase client.service.name ++ "_client.go")

def header (options : Options) (client : Client) : String :=
  Emitter.render (Header.code options client.imports none)

/-- The elements whose iterators `declared` does not have yet, each iterator once. -/
def newElements (declared : List String) : List Element → List Element
  | [] => []
  | element :: elements =>
    if element.iterator ∈ declared then newElements declared elements
    else element :: newElements (element.iterator :: declared) elements

def body (declared : List String) (client : Client) : String :=
  Emitter.render (Code.seq [
    client.scaffold,
    client.calls.flatMap client.method,
    (newElements declared client.elements).flatMap Element.declaration])

def outputFile (options : Options) (declared : List String) (client : Client) : OutputFile where
  name := client.fileName options
  content := client.header options ++ client.body declared

/-- The files of several clients. An iterator is declared by the first client that needs it. -/
def outputFiles (options : Options) (declared : List String) : List Client → List OutputFile
  | [] => []
  | client :: clients =>
    client.outputFile options declared ::
      outputFiles options (client.elements.map (·.iterator) ++ declared) clients

end Client

def Doc.outputFile (options : Options) : OutputFile where
  name := options.outputFile "doc.go"
  content := Emitter.render (Header.code options imports (some (summary options))) ++
    Emitter.render body

namespace Run

def clientsOf (catalog : Catalog) (options : Options) (name : String) :
    Except Fault (List Client) := do
  let some file := catalog.file? name | throw (.unknownFile name)
  file.services.mapM (Client.resolve catalog options file)

/-- The clients of the named files. The first file that fails gives its name to the error. -/
def clients (catalog : Catalog) (options : Options) (names : List String) :
    Except String (List Client) := do
  let groups ← names.mapM fun name =>
    (clientsOf catalog options name).mapError fun fault => s!"{name}: {fault.message}"
  return groups.flatten

def packageFiles (options : Options) (clients : List Client) : List OutputFile :=
  if clients.isEmpty then []
  else Client.outputFiles options [] clients ++ [Doc.outputFile options]

end Run

open Run

def generateWith (files : List File) (names : List String) (options : Options) : Output :=
  match clients (.ofFiles files) options names with
  | .ok clients => { files := packageFiles options clients }
  | .error error => { error := some error }

def generate (request : Request) : Output :=
  match Options.parse request.parameter with
  | .ok options => generateWith request.files request.filesToGenerate options
  | .error fault => { error := some fault.message }

end ClientGen
