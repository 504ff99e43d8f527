import ClientGen.Proto.Setting
import ClientGen.Text.Blank

namespace ClientGen.Proto

open Text
open Schema (HttpRule HttpVerb)

/-- An options record that stands somewhere in a file, with the scope that it stands in. -/
structure Annotation where
  scope : String
  path : Path
  form : Form
  options : OptionsDecl

def elementPath (path : Path) (field : Int32) (position : Nat) : Path :=
  path ++ [field, .ofNat position]

def fieldAnnotations (scope : String) (path : Path) (field : Int32) (fields : List FieldDecl) :
    List Annotation :=
  fields.mapIdx fun i decl =>
    ⟨qualified scope decl.name, elementPath path field i ++ [8], .fieldOptions, decl.options⟩

def enumAnnotations (scope : String) (path : Path) (enum : EnumDecl) : List Annotation :=
  ⟨qualified scope enum.name, path ++ [3], .enumOptions, enum.options⟩ ::
    enum.values.mapIdx fun i value =>
      ⟨qualified scope value.name, elementPath path 2 i ++ [3], .valueOptions, value.options⟩

def enumsAnnotations (scope : String) (path : Path) (field : Int32) (enums : List EnumDecl) :
    List Annotation :=
  (enums.mapIdx fun i enum => enumAnnotations scope (elementPath path field i) enum).flatten

mutual

def messageAnnotations (scope : String) (path : Path) : MessageDecl → List Annotation
  | ⟨name, fields, messages, enums, oneofs, ranges, _, extensions, _, options⟩ =>
    let inner := qualified scope name
    ⟨inner, path ++ [7], .messageOptions, options⟩ ::
      (fieldAnnotations inner path 2 fields ++
        messagesAnnotations inner path 3 0 messages ++
        enumsAnnotations inner path 4 enums ++
        oneofs.mapIdx (fun i oneof =>
          ⟨qualified inner oneof.name, elementPath path 8 i ++ [2], .oneofOptions,
            oneof.options⟩) ++
        ranges.mapIdx (fun i range =>
          ⟨inner, elementPath path 5 i ++ [3], .rangeOptions, range.options⟩) ++
        fieldAnnotations inner path 6 extensions)

def messagesAnnotations (scope : String) (path : Path) (field : Int32) (position : Nat) :
    List MessageDecl → List Annotation
  | [] => []
  | message :: messages =>
    messageAnnotations scope (elementPath path field position) message ++
      messagesAnnotations scope path field (position + 1) messages

end

def serviceAnnotations (scope : String) (path : Path) (service : ServiceDecl) : List Annotation :=
  let inner := qualified scope service.name
  ⟨inner, path ++ [3], .serviceOptions, service.options⟩ :: service.methods.mapIdx fun i method =>
    ⟨qualified inner method.name, elementPath path 2 i ++ [4], .methodOptions, method.options⟩

def FileDecl.annotations (file : FileDecl) : List Annotation :=
  ⟨file.package, [8], .fileOptions, file.options⟩ ::
    (messagesAnnotations file.package [] 4 0 file.messages ++
      enumsAnnotations file.package [] 5 file.enums ++
      (file.services.mapIdx fun i service =>
        serviceAnnotations file.package (elementPath [] 6 i) service).flatten ++
      fieldAnnotations file.package [] 7 file.extensions)

/-- The number of the flag of an enum that lets its values share numbers. -/
def allowAliasNumber : Nat := 2

def goPackageNumber : Nat := 11

/-- The number of the list of settings in every options record. -/
def settingsNumber : Int32 := 999

namespace Linked

def optionValues (linked : Linked) (place : Place) (form : Form) (options : OptionsDecl) : Values :=
  ((linked.settle? place form options).map (·.values)).getD []

def isReadable (linked : Linked) (index : Nat) (file : FileDecl) : Bool :=
  let visible := linked.pool.visible index
  file.annotations.all fun annotation =>
    (linked.settle? ⟨visible, annotation.scope⟩ annotation.form annotation.options).isSome

def hasOwnNumbers (linked : Linked) (symbol : Symbol) : Bool :=
  match symbol.meaning with
  | .enum decl =>
    let place : Place := ⟨linked.pool.visible symbol.file, symbol.name⟩
    (linked.optionValues place .enumOptions decl.options).flag allowAliasNumber ||
      (decl.values.map (·.number)).Nodup
  | _ => true

def ofFiles? (files : List FileDecl) : Option Linked := do
  let linked ← ofPool? (← Pool.ofFiles? files)
  if (files.mapIdx linked.isReadable).all id && linked.pool.symbols.all linked.hasOwnNumbers then
    some linked
  else none

end Linked

namespace Linked

variable (linked : Linked)

def extensionValue? (values : Values) (name : String) : Option Value := do
  let extension ← linked.extension? name
  values.lookup extension.slot.number

def extensionText? (values : Values) (name : String) : Option String :=
  match linked.extensionValue? values name with
  | some (.scalar (.text value)) => some value
  | _ => none

def presentText? (type : MessageType) (values : Values) (name : String) : Option String := do
  let slot ← type.field? name
  let value ← values.lookup slot.number
  match value with
  | .scalar (.text text) => if slot.isPresent value then some text else none
  | _ => none

def textOrDefault (type : MessageType) (values : Values) (name : String) : String :=
  match type.field? name with
  | none => ""
  | some slot =>
    match values.lookup slot.number with
    | some (.scalar (.text value)) => value
    | some _ => ""
    | none =>
      match slot.repeated, slot.default with
      | false, .text value => value
      | _, _ => ""

def plainVerbs : List (String × HttpVerb) :=
  [("get", .get), ("put", .put), ("post", .post), ("delete", .delete), ("patch", .patch)]

def customRule? (type : MessageType) (values : Values) : Option HttpRule := do
  let slot ← type.field? "custom"
  match ← values.lookup slot.number with
  | .message name members =>
    let inner ← linked.types.find? (·.name == name)
    return ⟨.custom (textOrDefault inner members "kind"), textOrDefault inner members "path"⟩
  | _ => none

def ruleOf? (type : MessageType) (values : Values) : Option HttpRule :=
  (plainVerbs.findSome? fun (name, verb) =>
    (presentText? type values name).map fun path => ⟨verb, path⟩).or (linked.customRule? type values)

def httpRule? (values : Values) : Option HttpRule :=
  match linked.extensionValue? values "google.api.http" with
  | some (.message name members) =>
    (linked.types.find? (·.name == name)).bind fun type => linked.ruleOf? type members
  | _ => none

def absolute (name : String) : String := "." ++ name

def fieldToSchema? (visible : List Nat) (scope : String) (decl : FieldDecl) :
    Option Schema.Field := do
  let (kind, typeName) ← match ← linked.pool.fieldType? visible (qualified scope decl.name) decl with
    | .scalar kind => pure (kind, none)
    | .message name => pure (.message, some (absolute name))
    | .enum name _ => pure (.enum, some (absolute name))
  return { name := decl.name, number := decl.number, kind, repeated := decl.repeated, typeName }

/-- Values are ordered by number; of those with one number the first comes last. -/
def orderedValues : List ValueDecl → List ValueDecl
  | values =>
    let isFirst (i : Nat) (value : ValueDecl) : Bool :=
      !(values.take i).any (·.number == value.number)
    let keyed := values.mapIdx fun i value => (value, isFirst i value)
    (keyed.mergeSort fun (a, first) (b, first') =>
      a.number < b.number || (a.number == b.number && (!first || first'))).map Prod.fst

def enumToSchema (decl : EnumDecl) : Schema.EnumType where
  name := decl.name
  values := (orderedValues decl.values).map (·.name)

mutual

def messageToSchema? (visible : List Nat) (scope : String) : MessageDecl → Option Schema.Message
  | ⟨name, fields, messages, enums, _, _, _, _, _, _⟩ => do
    let ordered := fields.mergeSort fun a b => a.number ≤ b.number
    return {
      name
      fields := ← ordered.mapM (linked.fieldToSchema? visible (qualified scope name))
      messages := ← messagesToSchema? visible (qualified scope name) messages
      enums := enums.map enumToSchema }

def messagesToSchema? (visible : List Nat) (scope : String) :
    List MessageDecl → Option (List Schema.Message)
  | [] => some []
  | message :: messages => do
    return (← messageToSchema? visible scope message) :: (← messagesToSchema? visible scope messages)

end

def methodToSchema? (visible : List Nat) (scope : String) (decl : MethodDecl) :
    Option Schema.Method := do
  let fullName := qualified scope decl.name
  let input ← linked.pool.resolve? visible Meaning.isMessage fullName decl.inputType
  let output ← linked.pool.resolve? visible Meaning.isMessage fullName decl.outputType
  return {
    name := decl.name
    inputType := absolute input.name
    outputType := absolute output.name
    clientStreaming := decl.clientStreaming
    serverStreaming := decl.serverStreaming
    http := linked.httpRule? (linked.optionValues ⟨visible, fullName⟩ .methodOptions decl.options) }

def serviceToSchema? (visible : List Nat) (scope : String) (decl : ServiceDecl) :
    Option Schema.Service := do
  let fullName := qualified scope decl.name
  let values := linked.optionValues ⟨visible, fullName⟩ .serviceOptions decl.options
  let scopes := (linked.extensionText? values "google.api.oauth_scopes").getD ""
  return {
    name := decl.name
    methods := ← decl.methods.mapM (linked.methodToSchema? visible fullName)
    defaultHost := linked.extensionText? values "google.api.default_host"
    oauthScopes := ((pieces ',' scopes).map trimmed).filter (!·.isEmpty) }

structure Move where
  source : Path
  target : Path

def Move.apply (move : Move) (path : Path) : Path :=
  if move.source.isPrefixOf path then move.target ++ path.drop move.source.length else path

/-- The moves of the options in a record that are set in words: from the list of settings to the
options themselves. -/
def recordMoves (visible : List Nat) (record : Annotation) : List Move :=
  match linked.settle? ⟨visible, record.scope⟩ record.form record.options with
  | none => []
  | some settled => settled.paths.mapIdx fun i path =>
    ⟨elementPath record.path settingsNumber i, record.path ++ path⟩

def locations (visible : List Nat) (decl : FileDecl) : List Schema.Location :=
  let changed := decl.annotations.filter (!·.options.settings.isEmpty)
  let moves := changed.flatMap (linked.recordMoves visible)
  decl.locations.map fun location =>
    { location with path := moves.foldl (fun path move => move.apply path) location.path }

def fileToSchema? (index : Nat) (decl : FileDecl) : Option Schema.File := do
  let visible := linked.pool.visible index
  let values := linked.optionValues ⟨visible, decl.package⟩ .fileOptions decl.options
  return {
    name := decl.name
    package := decl.package
    goPackage := values.text? goPackageNumber
    messages := ← linked.messagesToSchema? visible decl.package decl.messages
    enums := decl.enums.map enumToSchema
    services := ← decl.services.mapM (linked.serviceToSchema? visible decl.package)
    locations := (linked.locations visible decl).filter (·.leadingComments.isSome) }

def toSchema? : Option (List Schema.File) :=
  (linked.pool.files.mapIdx fun i file => (i, file)).mapM fun (i, file) => linked.fileToSchema? i file

end Linked

end ClientGen.Proto
