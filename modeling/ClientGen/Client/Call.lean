import ClientGen.Call.Element
import ClientGen.Call.Shape
import ClientGen.Client.GoType

namespace ClientGen

open Schema

/-- A page element whose Go type is known. -/
structure Element where
  /-- The name of the type that iterates over such elements. -/
  iterator : String
  goType : String
  imports : List ImportSpec
deriving DecidableEq, Repr

inductive Exchange
  | unary (request response : GoType)
  /-- The response is empty, and the method returns an error alone. -/
  | acknowledged (request : GoType)
  | longRunning (request operation : GoType)
  | serverStream (request : GoType)
  /-- The stream is opened without a request, and the client sends on it. -/
  | clientStream
  | paged (request response : GoType) (element : Element) (field : String)
deriving DecidableEq, Repr

structure Call where
  method : Method
  doc : Option String
  exchange : Exchange

namespace Element

def resolve (catalog : Catalog) (element : PageElement) : Except Fault Element :=
  match element with
  | .message typeName => do
    let type ← catalog.goType typeName
    return ⟨element.iteratorName, "*" ++ type.render, [type.spec]⟩
  | .scalar goType _ => .ok ⟨element.iteratorName, goType, []⟩

end Element

namespace Exchange

def resolve (catalog : Catalog) (method : Method) : CallShape → Except Fault Exchange
  | .unary => do
    let request ← catalog.goType method.inputType
    if method.outputType = emptyType then return .acknowledged request
    else return .unary request (← catalog.goType method.outputType)
  | .longRunning => do
    let request ← catalog.goType method.inputType
    return .longRunning request (← catalog.goType operationType)
  | .serverStreaming => do
    return .serverStream (← catalog.goType method.inputType)
  | .clientStreaming | .bidiStreaming => .ok .clientStream
  | .paged field => do
    let element ← PageElement.ofField field
    let request ← catalog.goType method.inputType
    let response ← catalog.goType method.outputType
    return .paged request response (← Element.resolve catalog element) field.name

def isLongRunning : Exchange → Bool
  | .longRunning .. => true
  | _ => false

def element? : Exchange → Option Element
  | .paged _ _ element _ => some element
  | _ => none

def imports : Exchange → List ImportSpec
  | .unary request response => [request.spec, response.spec]
  | .acknowledged request => [request.spec]
  | .longRunning request operation => [ClientImport.longrunning, request.spec, operation.spec]
  | .serverStream request => [request.spec]
  | .clientStream => []
  | .paged request response element _ =>
    [ClientImport.math, ClientImport.proto, ClientImport.iterator, request.spec, response.spec] ++
      element.imports

end Exchange

end ClientGen
