import ClientGen.Command.Arguments
import ClientGen.Command.LogFilter
import ClientGen.Command.Request
import ClientGen.Command.Response
import ClientGen.Command.System
import ClientGen.Schema.FromJson

namespace ClientGen

open Schema

/-- What is done for a request: as `generate`, with a year for files when the parameter gives
none. -/
def Schema.Request.run (request : Request) (year : Int32) : Output :=
  match Options.parse request.parameter with
  | .ok options => generateWith request.files request.filesToGenerate
      { options with copyrightYear := some (options.copyrightYear.getD year) }
  | .error fault => { error := some fault.message }

inductive Status
  | success
  | failure (failure : Failure)
  | usage
deriving DecidableEq, Repr

structure Ending where
  status : Status
  output : Wire.Bytes := []

namespace Command

def version : String := s!"gapic-cli {Doc.generatorVersion}\n"

def help : String :=
  "Options:\n" ++
  "  --request FILE           read the request from a file\n" ++
  "  --descriptors-json FILE  read the request in its JSON form from a file\n" ++
  "  --out-dir DIR            write the files below a directory\n" ++
  "  --log-level FILTER       choose what is logged\n"

def defaultLogLevel : String := "warn"

def logLevel (arguments : Arguments) (setting : Option String) : String :=
  (arguments.logLevel.or setting).getD defaultLogLevel

/-- The request in a JSON file, which must be text. -/
def requestOfJson (content : Option Wire.Bytes) : Except Failure Request :=
  match content.bind Wire.utf8? with
  | none => .error .io
  | some text =>
    match ofText? Request.decode text with
    | none => .error .json
    | some request => .ok request

variable {m : Type → Type} [Monad m] (system : System m)

def loadRequest (arguments : Arguments) : m (Except Failure Request) := do
  match arguments.descriptorsJson, arguments.request with
  | some path, _ => return requestOfJson (← system.readFile path)
  | none, some path =>
    match ← system.readFile path with
    | none => return .error .io
    | some bytes => return Request.ofBytes bytes
  | none, none => return Request.ofBytes (← system.readInput)

def writeEach (dir : String) : List OutputFile → m (Except Failure Unit)
  | [] => return .ok ()
  | file :: files => do
    if ← system.writeFile (joinPath dir file.name) file.content then writeEach dir files
    else return .error .io

/-- Writes the files of a run below a directory, up to the first that cannot be written. After an
error nothing is written. -/
def writeFiles (dir : String) (output : Output) : m (Except Failure Unit) :=
  match output.error with
  | some error => return .error (.general error)
  | none => writeEach system dir output.files

/-- Generates for a request and answers with a response, or with files below a directory. -/
def answer (arguments : Arguments) (request : Request) (year : Int32) : m Ending := do
  let output := request.run year
  match arguments.outDir with
  | none => return { status := .success, output := output.toBytes }
  | some dir =>
    match ← writeFiles system dir output with
    | .ok () => return { status := .success }
    | .error failure => return { status := .failure failure }

/-- Does what the arguments ask for. A filter for the log that makes no sense ends the command
before anything is read. -/
def perform (arguments : Arguments) (setting : Option String) (year : Int32) : m Ending := do
  let filter := logLevel arguments setting
  if LogFilter.isValid filter then
    match ← loadRequest system arguments with
    | .ok request => answer system arguments request year
    | .error failure => return { status := .failure failure }
  else
    return { status := .failure (.general s!"invalid log filter {Text.quoted filter}") }

def run (args : List String) (setting : Option String) (year : Int32) : m Ending :=
  match Arguments.read args with
  | .run arguments => perform system arguments setting year
  | .version => return { status := .success, output := version.toUTF8.toList }
  | .help => return { status := .success, output := help.toUTF8.toList }
  | .usage => return { status := .usage }

end Command

end ClientGen
