import ClientGen.Call.Retry
import ClientGen.Client.Call
import ClientGen.Import.Block
import ClientGen.Naming
import ClientGen.Options

namespace ClientGen

open Schema

structure Client where
  service : Service
  fullName : String
  /-- What the names of the client and its options begin with. -/
  stem : String
  /-- The import of the package that holds the gRPC stub. -/
  stub : ImportSpec
  host : String
  doc : Option String
  calls : List Call

namespace Client

def shapeOf (catalog : Catalog) (method : Method) : Except Fault CallShape := do
  let input ← catalog.message method.inputType
  let output ← catalog.message method.outputType
  CallShape.classify method input output

def resolveCall (catalog : Catalog) (serviceName : String) (method : Method) (shape : CallShape) :
    Except Fault Call := do
  let exchange ← Exchange.resolve catalog method shape
  return ⟨method, catalog.comment? (memberName serviceName method.name), exchange⟩

/-- Resolves all that a client refers to. All methods are classified before any type is looked
up. -/
def resolve (catalog : Catalog) (options : Options) (file : File) (service : Service) :
    Except Fault Client := do
  let fullName := service.fullName file
  let shaped ← service.methods.mapM fun method => return (method, ← shapeOf catalog method)
  let some host := service.defaultHost | throw (.noDefaultHost fullName)
  let stub ← ClientImport.ofFile file
  let calls ← shaped.mapM fun (method, shape) => resolveCall catalog fullName method shape
  return {
    service, fullName, stub, host, calls
    stem := Naming.clientStem service.name options.pkgName
    doc := catalog.comment? fullName }

variable (client : Client)

def typeName : String := client.stem ++ "Client"

def optionsType : String := client.stem ++ "CallOptions"

def stubField : String := Naming.stubField client.stem

def hasLongRunning : Bool := client.calls.any (·.exchange.isLongRunning)

def retries : List (String × RetryPolicy) := RetryPolicy.ofService client.service

def elements : List Element := client.calls.filterMap (·.exchange.element?)

def scaffoldImports : List ImportSpec :=
  List.flatten [
    [ClientImport.context, ClientImport.gax, ClientImport.option, ClientImport.transport,
      ClientImport.grpc, ClientImport.metadata, client.stub],
    if client.retries.isEmpty then [] else [ClientImport.codes, ClientImport.time],
    if client.hasLongRunning then [ClientImport.lroauto] else []]

def imports : ImportSet :=
  .ofList (client.scaffoldImports ++ client.calls.flatMap (·.exchange.imports))

end Client

end ClientGen
