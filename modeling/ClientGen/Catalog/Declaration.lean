import ClientGen.Schema.Types

namespace ClientGen

open Schema

inductive Node
  | message (message : Message)
  | enum (enum : EnumType)
  | service (service : Service)
  | method (method : Method)
  | field (field : Field)

namespace Node

def label : Node → String
  | .message _ => "message"
  | .enum _ => "enum"
  | .service _ => "service"
  | .method _ => "method"
  | .field _ => "field"

def name : Node → String
  | .message m => m.name
  | .enum e => e.name
  | .service s => s.name
  | .method m => m.name
  | .field f => f.name

end Node

/-- The elements that stand in `scope`, by full name, in the order in which they count. -/
abbrev Declared := List (String × Node)

def enumDeclarations (scope : String) (enums : List EnumType) : Declared :=
  enums.map fun enum => (memberName scope enum.name, .enum enum)

mutual

/-- A message comes after its fields and all that is nested in it. -/
def messageDeclarations (scope : String) : Message → Declared
  | ⟨name, fields, messages, enums⟩ =>
    fields.map (fun field => (memberName (memberName scope name) field.name, .field field)) ++
      messagesDeclarations (memberName scope name) messages ++
      enumDeclarations (memberName scope name) enums ++
      [(memberName scope name, .message ⟨name, fields, messages, enums⟩)]

def messagesDeclarations (scope : String) : List Message → Declared
  | [] => []
  | message :: messages => messageDeclarations scope message ++ messagesDeclarations scope messages

end

/-- A service comes after its methods. -/
def serviceDeclarations (scope : String) (service : Service) : Declared :=
  service.methods.map (fun method =>
      (memberName (memberName scope service.name) method.name, .method method)) ++
    [(memberName scope service.name, .service service)]

def Schema.File.declarations (file : File) : Declared :=
  messagesDeclarations file.scope file.messages ++ enumDeclarations file.scope file.enums ++
    file.services.flatMap (serviceDeclarations file.scope)

end ClientGen
