namespace ClientGen.Schema

inductive FieldKind
  | double
  | float
  | int64
  | uint64
  | int32
  | fixed64
  | fixed32
  | bool
  | string
  | bytes
  | uint32
  | sfixed32
  | sfixed64
  | sint32
  | sint64
  | enum
  | message
deriving DecidableEq, Repr

structure Field where
  name : String
  number : Int32 := 0
  kind : FieldKind
  repeated : Bool := false
  /-- The full name of the field's message or enum type. -/
  typeName : Option String := none
deriving DecidableEq, Repr

def Field.isSingular (field : Field) (kind : FieldKind) : Bool :=
  !field.repeated && field.kind == kind

structure EnumType where
  name : String := ""
  values : List String := []
deriving DecidableEq, Repr, Inhabited

structure Message where
  name : String := ""
  fields : List Field := []
  messages : List Message := []
  enums : List EnumType := []
deriving Repr, Inhabited

namespace Message

def field? (message : Message) (name : String) : Option Field :=
  message.fields.find? (·.name == name)

def repeatedFields (message : Message) : List Field :=
  message.fields.filter (·.repeated)

end Message

inductive HttpVerb
  | get
  | put
  | post
  | delete
  | patch
  | custom (kind : String)
deriving DecidableEq, Repr

def HttpVerb.isRead (verb : HttpVerb) : Bool :=
  verb == .get

structure HttpRule where
  verb : HttpVerb
  path : String
deriving DecidableEq, Repr

/-- Type references are full names with a leading dot, as in `.library.v1.Book`. -/
structure Method where
  name : String := ""
  inputType : String := ""
  outputType : String := ""
  clientStreaming : Bool := false
  serverStreaming : Bool := false
  http : Option HttpRule := none
deriving DecidableEq, Repr, Inhabited

structure Service where
  name : String := ""
  methods : List Method := []
  defaultHost : Option String := none
  oauthScopes : List String := []
deriving DecidableEq, Repr, Inhabited

/-- A place in a file, as a path of field numbers and positions, and the comment before it. -/
structure Location where
  path : List Int32 := []
  leadingComments : Option String := none
deriving DecidableEq, Repr, Inhabited

structure File where
  name : String := ""
  package : String := ""
  /-- Where the Go package for this file's types is: `path;name`, or only the path. -/
  goPackage : Option String := none
  messages : List Message := []
  enums : List EnumType := []
  services : List Service := []
  locations : List Location := []
deriving Repr, Inhabited

structure Request where
  files : List File := []
  filesToGenerate : List String := []
  parameter : Option String := none
deriving Repr, Inhabited

def operationType : String := ".google.longrunning.Operation"

def emptyType : String := ".google.protobuf.Empty"

/-- Full names in a package begin so; without a package they begin with the dot alone. -/
def scopeOfPackage (package : String) : String :=
  if package.isEmpty then "" else "." ++ package

def memberName (scope name : String) : String :=
  scope ++ "." ++ name

def File.scope (file : File) : String :=
  scopeOfPackage file.package

def Service.fullName (file : File) (service : Service) : String :=
  memberName file.scope service.name

end ClientGen.Schema
