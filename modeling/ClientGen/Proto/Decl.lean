import ClientGen.Proto.Datum
import ClientGen.Schema.Types

namespace ClientGen.Proto

structure NamePart where
  name : String
  isExtension : Bool
deriving DecidableEq, Repr

/-- An option that is set in the words of a schema. Its value is one of several kinds of literal. A
message literal is not kept: it stands for a message without fields. -/
structure Setting where
  parts : List NamePart
  identifier : Option String
  natural : Option Nat
  negative : Option Int
  float : Option Wire.Bytes
  text : Option Wire.Bytes
  isMessage : Bool

/-- An options record: its bytes, and the options in it that are set in words. -/
structure OptionsDecl where
  bytes : Wire.Bytes := []
  settings : List Setting := []

/-- A field or an extension, as declared. Names in it are not resolved. An extension names the
message that it extends. -/
structure FieldDecl where
  name : String
  extendee : Option String
  number : Int32
  repeated : Bool
  typeCode : Int32
  typeName : Option String
  defaultValue : Option String
  jsonName : Option String
  oneofIndex : Option Int32
  proto3Optional : Bool
  options : OptionsDecl

structure OneofDecl where
  name : String
  options : OptionsDecl

structure ValueDecl where
  name : String
  number : Int32
  options : OptionsDecl

/-- A range of numbers. Whether `last` belongs to it depends on where it stands. -/
structure RangeDecl where
  first : Int32
  last : Int32
  options : OptionsDecl := {}

structure EnumDecl where
  name : String
  values : List ValueDecl
  reservedRanges : List RangeDecl
  options : OptionsDecl

structure MessageDecl where
  name : String
  fields : List FieldDecl
  messages : List MessageDecl
  enums : List EnumDecl
  oneofs : List OneofDecl
  extensionRanges : List RangeDecl
  reservedRanges : List RangeDecl
  extensions : List FieldDecl
  isMapEntry : Bool
  options : OptionsDecl

structure MethodDecl where
  name : String
  inputType : String
  outputType : String
  clientStreaming : Bool
  serverStreaming : Bool
  options : OptionsDecl

structure ServiceDecl where
  name : String
  methods : List MethodDecl
  options : OptionsDecl

inductive Dialect
  | proto2
  | proto3
deriving DecidableEq, Repr

structure FileDecl where
  name : String
  package : String
  dialect : Option Dialect
  dependencies : List String
  publicDependencies : List Int32
  weakDependencies : List Int32
  messages : List MessageDecl
  enums : List EnumDecl
  services : List ServiceDecl
  extensions : List FieldDecl
  locations : List Schema.Location
  options : OptionsDecl

def NamePart.ofMembers (members : Members) : NamePart where
  name := members.text 1
  isExtension := members.bool 2

def Setting.ofMembers (members : Members) : Setting where
  parts := (members.records 2).map .ofMembers
  identifier := members.text? 3
  natural := (members.numbers 4).getLast?
  negative := (members.numbers 5).getLast?.map fun n => (Int64.ofNat n).toInt
  float := (members.blobs 6).getLast?
  text := (members.blobs 7).getLast?
  isMessage := (members.text? 8).isSome

def OptionsDecl.ofMembers (members : Members) (number : Nat) : OptionsDecl where
  bytes := members.optionBytes number
  settings := ((members.optionMembers number).records 999).map .ofMembers

def FieldDecl.ofMembers (members : Members) : FieldDecl where
  name := members.text 1
  extendee := members.text? 2
  number := members.int32 3
  repeated := members.int32 4 == 3
  typeCode := members.int32 5
  typeName := members.text? 6
  defaultValue := members.text? 7
  jsonName := members.text? 10
  oneofIndex := members.int32? 9
  proto3Optional := members.bool 17
  options := .ofMembers members 8

def OneofDecl.ofMembers (members : Members) : OneofDecl where
  name := members.text 1
  options := .ofMembers members 2

def ValueDecl.ofMembers (members : Members) : ValueDecl where
  name := members.text 1
  number := members.int32 2
  options := .ofMembers members 3

def RangeDecl.ofMembers (members : Members) : RangeDecl where
  first := members.int32 1
  last := members.int32 2
  options := .ofMembers members 3

def EnumDecl.ofMembers (members : Members) : EnumDecl where
  name := members.text 1
  values := (members.records 2).map .ofMembers
  reservedRanges := (members.records 4).map .ofMembers
  options := .ofMembers members 3

mutual

def MessageDecl.ofDatum : Datum → MessageDecl
  | .record members =>
    { name := Members.text members 1
      fields := (Members.records members 2).map .ofMembers
      messages := MessageDecl.nested members
      enums := (Members.records members 4).map .ofMembers
      oneofs := (Members.records members 8).map .ofMembers
      extensionRanges := (Members.records members 5).map .ofMembers
      reservedRanges := (Members.records members 9).map .ofMembers
      extensions := (Members.records members 6).map .ofMembers
      isMapEntry := (Members.optionMembers members 7).bool 7
      options := .ofMembers members 7 }
  | _ => ⟨"", [], [], [], [], [], [], [], false, {}⟩

def MessageDecl.nested : List (Nat × Datum) → List MessageDecl
  | [] => []
  | (number, datum) :: members =>
    if number = 3 then MessageDecl.ofDatum datum :: MessageDecl.nested members
    else MessageDecl.nested members

end

def MessageDecl.ofMembers (members : Members) : MessageDecl :=
  .ofDatum (.record members)

def MethodDecl.ofMembers (members : Members) : MethodDecl where
  name := members.text 1
  inputType := members.text 2
  outputType := members.text 3
  clientStreaming := members.bool 5
  serverStreaming := members.bool 6
  options := .ofMembers members 4

def ServiceDecl.ofMembers (members : Members) : ServiceDecl where
  name := members.text 1
  methods := (members.records 2).map .ofMembers
  options := .ofMembers members 3

def locationOfMembers (members : Members) : Schema.Location where
  path := (members.numbers 1).map .ofNat
  leadingComments := members.text? 3

def Dialect.ofName? : Option String → Option Dialect
  | none | some "proto2" => some .proto2
  | some "proto3" => some .proto3
  | _ => none

def FileDecl.ofMembers (members : Members) : FileDecl where
  name := members.text 1
  package := members.text 2
  dialect := Dialect.ofName? (members.text? 12)
  dependencies := members.texts 3
  publicDependencies := (members.numbers 10).map .ofNat
  weakDependencies := (members.numbers 11).map .ofNat
  messages := (members.records 4).map .ofMembers
  enums := (members.records 5).map .ofMembers
  services := (members.records 6).map .ofMembers
  extensions := (members.records 7).map .ofMembers
  locations := ((members.merged 9).records 1).map locationOfMembers
  options := .ofMembers members 8

def nestingLimit : Nat := 100

def FileDecl.read? (bytes : Wire.Bytes) : Option FileDecl :=
  (readMembers (nestingLimit - 1) .file bytes).map .ofMembers

end ClientGen.Proto
