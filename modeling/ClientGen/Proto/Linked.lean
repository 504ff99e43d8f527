import ClientGen.Proto.Scalar
import ClientGen.Proto.Valid

namespace ClientGen.Proto

open Text
open Schema (FieldKind)

def kindOfCode (code : Int32) : FieldKind :=
  match code.toInt with
  | 2 => .float
  | 3 => .int64
  | 4 => .uint64
  | 5 => .int32
  | 6 => .fixed64
  | 7 => .fixed32
  | 8 => .bool
  | 9 => .string
  | 10 | 11 => .message
  | 12 => .bytes
  | 13 => .uint32
  | 14 => .enum
  | 15 => .sfixed32
  | 16 => .sfixed64
  | 17 => .sint32
  | 18 => .sint64
  | _ => .double

def groupCode : Int32 := 10

/-- The type of a field: a scalar, or a message or enum of a full name without a leading dot. Of an
enum the values are known too. -/
inductive FieldType
  | scalar (kind : FieldKind)
  | message (name : String)
  | enum (name : String) (values : List (String × Int32))
deriving DecidableEq, Repr

namespace FieldType

def kind : FieldType → FieldKind
  | .scalar kind => kind
  | .message _ => .message
  | .enum _ _ => .enum

def isMessage (type : FieldType) : Bool :=
  type.kind == .message

/-- What a field holds if no default is declared. Of an enum it is the first value. -/
def zero : FieldType → Scalar
  | .enum _ ((_, number) :: _) => .varint (wordOf UInt64.size number.toInt)
  | type => .zero type.kind

def default? (type : FieldType) (text : String) : Option Scalar :=
  match type with
  | .message _ => none
  | .enum _ values => (values.lookup text).map fun number => .varint (wordOf UInt64.size number.toInt)
  | .scalar kind =>
    match kind with
    | .double | .float => (Floating.read? text.toList).map (.ofFloating kind)
    | .bool =>
      if text = "true" then some (.varint 1) else if text = "false" then some (.varint 0) else none
    | .string => some (.text text)
    | .bytes => (unescaped? text).map .bytes
    | .uint32 | .uint64 | .fixed32 | .fixed64 =>
      (natural? text.toList).bind fun n => Scalar.ofInt? kind n
    | _ => (integer? text.toList).bind (Scalar.ofInt? kind)

end FieldType

structure Slot where
  name : String
  number : Nat
  type : FieldType
  repeated : Bool := false
  isGroup : Bool := false
  /-- Whether a scalar counts as present even when it holds its default. -/
  tracksPresence : Bool := true
  oneof : Option Int32 := none
  default : Scalar := type.zero

structure Extension where
  name : String
  extendee : String
  slot : Slot

structure MessageType where
  name : String
  fields : List Slot
  extensions : List Slot := []
  isMapEntry : Bool := false

namespace Pool

variable (pool : Pool)

/-- The type of a field or extension of this full name. A type name, if there is one, decides
alone. -/
def fieldType? (visible : List Nat) (fullName : String) (decl : FieldDecl) : Option FieldType :=
  match decl.typeName with
  | none =>
    match kindOfCode decl.typeCode with
    | .message | .enum => none
    | kind => some (.scalar kind)
  | some name => do
    let symbol ← pool.resolve? visible Meaning.isType fullName name
    match symbol.meaning with
    | .enum decl => return .enum symbol.name (decl.values.map fun value => (value.name, value.number))
    | _ => return .message symbol.name

/-- A field or extension with its type, in which `tracksPresence` says whether a scalar does. -/
def slot? (visible : List Nat) (fullName : String) (tracksPresence : Bool) (decl : FieldDecl) :
    Option Slot := do
  let type ← pool.fieldType? visible fullName decl
  return {
    name := decl.name
    number := decl.number.toInt.toNat
    type
    repeated := decl.repeated
    isGroup := decl.typeCode == groupCode
    tracksPresence := tracksPresence || (!decl.repeated && type.isMessage)
    oneof := decl.oneofIndex
    default := ← match decl.defaultValue with
      | none => some type.zero
      | some text => type.default? text }

def fieldSlot? (visible : List Nat) (dialect : Option Dialect) (scope : String) (decl : FieldDecl) :
    Option Slot :=
  let tracksPresence := decl.proto3Optional || decl.oneofIndex.isSome ||
    (!decl.repeated && dialect = some .proto2)
  pool.slot? visible (qualified scope decl.name) tracksPresence decl

/-- The extension that a name declares. The extended message must admit its number. -/
def extension? (visible : List Nat) (fullName : String) (decl : FieldDecl) : Option Extension := do
  let extended ← pool.resolve? visible Meaning.isMessage fullName (decl.extendee.getD "")
  let slot ← pool.slot? visible fullName (!decl.repeated) decl
  match extended.meaning with
  | .message message =>
    if message.admits decl then
      return ⟨fullName, extended.name, { slot with oneof := none }⟩
    else none
  | _ => none

def extensions? : Option (List Extension) :=
  let found := pool.symbols.filterMap fun symbol =>
    match symbol.meaning with
    | .extension decl => some (symbol, decl)
    | _ => none
  found.mapM fun (symbol, decl) => pool.extension? (pool.visible symbol.file) symbol.name decl

def messageType? (extensions : List Extension) (symbol : Symbol) (decl : MessageDecl) :
    Option MessageType := do
  let visible := pool.visible symbol.file
  let dialect := pool.files[symbol.file]?.bind (·.dialect)
  return {
    name := symbol.name
    fields := ← decl.fields.mapM (pool.fieldSlot? visible dialect symbol.name)
    extensions := (extensions.filter (·.extendee == symbol.name)).map (·.slot)
    isMapEntry := decl.isMapEntry }

def messageTypes? (extensions : List Extension) : Option (List MessageType) :=
  let found := pool.symbols.filterMap fun symbol =>
    match symbol.meaning with
    | .message decl => some (symbol, decl)
    | _ => none
  found.mapM fun (symbol, decl) => pool.messageType? extensions symbol decl

end Pool

structure Linked where
  pool : Pool
  extensions : List Extension
  types : List MessageType

def Linked.ofPool? (pool : Pool) : Option Linked := do
  let extensions ← pool.extensions?
  return { pool, extensions, types := ← pool.messageTypes? extensions }

def Linked.extension? (linked : Linked) (name : String) : Option Extension :=
  linked.extensions.find? (·.name == name)

end ClientGen.Proto
