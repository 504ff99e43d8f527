import ClientGen.Json.Value
import ClientGen.Schema.Types

namespace ClientGen.Schema

def ofInt32 (n : Int32) : Json := .ofInt n.toInt

def FieldKind.name : FieldKind → String
  | .double => "double"
  | .float => "float"
  | .int64 => "int64"
  | .uint64 => "uint64"
  | .int32 => "int32"
  | .fixed64 => "fixed64"
  | .fixed32 => "fixed32"
  | .bool => "bool"
  | .string => "string"
  | .bytes => "bytes"
  | .uint32 => "uint32"
  | .sfixed32 => "sfixed32"
  | .sfixed64 => "sfixed64"
  | .sint32 => "sint32"
  | .sint64 => "sint64"
  | .enum => "enum"
  | .message => "message"

def Field.toJson (field : Field) : Json :=
  .record [
    ("name", .ofString field.name),
    ("number", ofInt32 field.number),
    ("kind", .ofString field.kind.name),
    ("repeated", .bool field.repeated),
    ("type_name", .ofOption .ofString field.typeName)]

def EnumType.toJson (enum : EnumType) : Json :=
  .record [
    ("name", .ofString enum.name),
    ("values", .ofList .ofString enum.values)]

mutual

def Message.toJson : Message → Json
  | ⟨name, fields, messages, enums⟩ =>
    .record [
      ("name", .ofString name),
      ("fields", .ofList Field.toJson fields),
      ("nested_messages", .array (Message.listToJson messages)),
      ("nested_enums", .ofList EnumType.toJson enums)]

def Message.listToJson : List Message → List Json
  | [] => []
  | message :: messages => Message.toJson message :: Message.listToJson messages

end

def HttpVerb.toJson : HttpVerb → Json
  | .get => .ofString "get"
  | .put => .ofString "put"
  | .post => .ofString "post"
  | .delete => .ofString "delete"
  | .patch => .ofString "patch"
  | .custom kind => .record [("custom", .ofString kind)]

def HttpRule.toJson (rule : HttpRule) : Json :=
  .record [
    ("verb", rule.verb.toJson),
    ("path", .ofString rule.path)]

def Method.toJson (method : Method) : Json :=
  .record [
    ("name", .ofString method.name),
    ("input_type", .ofString method.inputType),
    ("output_type", .ofString method.outputType),
    ("client_streaming", .bool method.clientStreaming),
    ("server_streaming", .bool method.serverStreaming),
    ("http", .ofOption HttpRule.toJson method.http)]

def Service.toJson (service : Service) : Json :=
  .record [
    ("name", .ofString service.name),
    ("methods", .ofList Method.toJson service.methods),
    ("default_host", .ofOption .ofString service.defaultHost),
    ("oauth_scopes", .ofList .ofString service.oauthScopes)]

def Location.toJson (location : Location) : Json :=
  .record [
    ("path", .ofList ofInt32 location.path),
    ("leading_comments", .ofOption .ofString location.leadingComments)]

def File.toJson (file : File) : Json :=
  .record [
    ("name", .ofString file.name),
    ("package", .ofString file.package),
    ("go_package", .ofOption .ofString file.goPackage),
    ("messages", .array (Message.listToJson file.messages)),
    ("enums", .ofList EnumType.toJson file.enums),
    ("services", .ofList Service.toJson file.services),
    ("locations", .ofList Location.toJson file.locations)]

def Request.toJson (request : Request) : Json :=
  .record [
    ("files", .ofList File.toJson request.files),
    ("file_to_generate", .ofList .ofString request.filesToGenerate),
    ("parameter", .ofOption .ofString request.parameter)]

end ClientGen.Schema
