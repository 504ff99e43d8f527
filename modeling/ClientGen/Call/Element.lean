import ClientGen.Fault
import ClientGen.Schema.Types

namespace ClientGen

open Schema

inductive PageElement
  | message (typeName : String)
  | scalar (goType stem : String)
deriving DecidableEq, Repr

def Schema.FieldKind.scalar? : FieldKind → Option (String × String)
  | .double => some ("float64", "Float64")
  | .float => some ("float32", "Float32")
  | .int64 | .sint64 | .sfixed64 => some ("int64", "Int64")
  | .uint64 | .fixed64 => some ("uint64", "Uint64")
  | .int32 | .sint32 | .sfixed32 => some ("int32", "Int32")
  | .uint32 | .fixed32 => some ("uint32", "Uint32")
  | .bool => some ("bool", "Bool")
  | .string => some ("string", "String")
  | .bytes => some ("[]byte", "Bytes")
  | .enum | .message => none

namespace PageElement

/-- The part of a full name after its last dot. -/
def simpleName (name : String) : String :=
  .ofList ((name.toList.splitOn '.').getLast?.getD [])

def iteratorName : PageElement → String
  | .message typeName => simpleName typeName ++ "Iterator"
  | .scalar _ stem => stem ++ "Iterator"

/-- The elements of pages held in a field. There are no iterators over enums. -/
def ofField (field : Field) : Except Fault PageElement :=
  match field.kind.scalar? with
  | some (goType, stem) => .ok (.scalar goType stem)
  | none =>
    if field.kind = .enum then .error (.enumPaging field.name)
    else match field.typeName with
      | some typeName => .ok (.message typeName)
      | none => .error (.untypedField field.name)

end PageElement

end ClientGen
