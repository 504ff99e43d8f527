import ClientGen.Json.Decoder
import ClientGen.Json.Reader
import ClientGen.Schema.Types

namespace ClientGen.Schema

open Json Decoder

def FieldKind.ofName? : String → Option FieldKind
  | "double" => some .double
  | "float" => some .float
  | "int64" => some .int64
  | "uint64" => some .uint64
  | "int32" => some .int32
  | "fixed64" => some .fixed64
  | "fixed32" => some .fixed32
  | "bool" => some .bool
  | "string" => some .string
  | "bytes" => some .bytes
  | "uint32" => some .uint32
  | "sfixed32" => some .sfixed32
  | "sfixed64" => some .sfixed64
  | "sint32" => some .sint32
  | "sint64" => some .sint64
  | "enum" => some .enum
  | "message" => some .message
  | _ => none

def FieldKind.decode : Decoder FieldKind :=
  choice FieldKind.ofName? fun _ _ _ => none

def Field.decode : Decoder Field
  | 0, _ => none
  | budget + 1, json => do
    let [name, number, kind, repeated, typeName] ←
      slots? ["name", "number", "kind", "repeated", "type_name"] json | none
    return {
      name := ← required text budget name
      number := ← withDefault 0 int32 budget number
      kind := ← required FieldKind.decode budget kind
      repeated := ← withDefault false bool budget repeated
      typeName := ← withDefault none (nullable text) budget typeName }

def EnumType.decode : Decoder EnumType
  | 0, _ => none
  | budget + 1, json => do
    let [name, values] ← slots? ["name", "values"] json | none
    return {
      name := ← withDefault "" text budget name
      values := ← withDefault [] (list text) budget values }

mutual

def Message.decode : Decoder Message
  | 0, _ => none
  | budget + 1, json => do
    let [name, fields, messages, enums] ←
      slots? ["name", "fields", "nested_messages", "nested_enums"] json | none
    return {
      name := ← withDefault "" text budget name
      fields := ← withDefault [] (list Field.decode) budget fields
      messages := ← match messages with
        | none => some []
        | some json => Message.decodeList budget json
      enums := ← withDefault [] (list EnumType.decode) budget enums }

/-- A nested message lies two levels down, in the list of its siblings. -/
def Message.decodeList : Decoder (List Message)
  | budget + 1, .array items => items.mapM (Message.decode budget)
  | _, _ => none

end

def HttpVerb.ofName? : String → Option HttpVerb
  | "get" => some .get
  | "put" => some .put
  | "post" => some .post
  | "delete" => some .delete
  | "patch" => some .patch
  | _ => none

def HttpVerb.decode : Decoder HttpVerb :=
  choice HttpVerb.ofName? fun name budget json =>
    if name = "custom" then (text budget json).map .custom else none

def HttpRule.decode : Decoder HttpRule
  | 0, _ => none
  | budget + 1, json => do
    let [verb, path] ← slots? ["verb", "path"] json | none
    return {
      verb := ← required HttpVerb.decode budget verb
      path := ← required text budget path }

def Method.decode : Decoder Method
  | 0, _ => none
  | budget + 1, json => do
    let [name, inputType, outputType, clientStreaming, serverStreaming, http] ←
      slots? ["name", "input_type", "output_type", "client_streaming",
        "server_streaming", "http"] json
      | none
    return {
      name := ← withDefault "" text budget name
      inputType := ← withDefault "" text budget inputType
      outputType := ← withDefault "" text budget outputType
      clientStreaming := ← withDefault false bool budget clientStreaming
      serverStreaming := ← withDefault false bool budget serverStreaming
      http := ← withDefault none (nullable HttpRule.decode) budget http }

def Service.decode : Decoder Service
  | 0, _ => none
  | budget + 1, json => do
    let [name, methods, defaultHost, oauthScopes] ←
      slots? ["name", "methods", "default_host", "oauth_scopes"] json | none
    return {
      name := ← withDefault "" text budget name
      methods := ← withDefault [] (list Method.decode) budget methods
      defaultHost := ← withDefault none (nullable text) budget defaultHost
      oauthScopes := ← withDefault [] (list text) budget oauthScopes }

def Location.decode : Decoder Location
  | 0, _ => none
  | budget + 1, json => do
    let [path, leadingComments] ← slots? ["path", "leading_comments"] json | none
    return {
      path := ← withDefault [] (list int32) budget path
      leadingComments := ← withDefault none (nullable text) budget leadingComments }

def File.decode : Decoder File
  | 0, _ => none
  | budget + 1, json => do
    let [name, package, goPackage, messages, enums, services, locations] ←
      slots? ["name", "package", "go_package", "messages", "enums", "services", "locations"] json
      | none
    return {
      name := ← withDefault "" text budget name
      package := ← withDefault "" text budget package
      goPackage := ← withDefault none (nullable text) budget goPackage
      messages := ← withDefault [] (list Message.decode) budget messages
      enums := ← withDefault [] (list EnumType.decode) budget enums
      services := ← withDefault [] (list Service.decode) budget services
      locations := ← withDefault [] (list Location.decode) budget locations }

def Request.decode : Decoder Request
  | 0, _ => none
  | budget + 1, json => do
    let [files, filesToGenerate, parameter] ← slots? ["files", "file_to_generate", "parameter"] json
      | none
    return {
      files := ← withDefault [] (list File.decode) budget files
      filesToGenerate := ← withDefault [] (list text) budget filesToGenerate
      parameter := ← withDefault none (nullable text) budget parameter }

/-- The levels of containers that a document may open on the way to a value that is read. What is
ignored may lie deeper. -/
def depthLimit : Nat := 127

def ofText? {α : Type} (decode : Decoder α) (source : String) : Option α :=
  (read? source.toList).bind (decode depthLimit)

end ClientGen.Schema
