import ClientGen.Proto.OptionValue

namespace ClientGen.Proto

open Wire
open Schema (FieldKind)

/-- Where an options record stands: in a scope, and in a file where other files are visible. -/
structure Place where
  visible : List Nat
  scope : String

namespace Setting

variable (setting : Setting)

def integer? : Option Int :=
  (setting.natural.map Int.ofNat).or setting.negative

def float? : Option Float :=
  match setting.float with
  | some bytes => some (.ofBits (.ofNat (ofLittleEndian bytes)))
  | none => setting.integer?.map .ofInt

/-- The literal as a scalar of a type, if it is of the kind that the type asks for. -/
def scalar? (type : FieldType) : Option Scalar :=
  match type with
  | .message _ => none
  | .enum _ _ => setting.identifier.bind type.default?
  | .scalar kind =>
    match kind with
    | .double | .float => setting.float?.map (.ofFloat kind)
    | .bool => setting.identifier.bind type.default?
    | .string => (setting.text.bind utf8?).map .text
    | .bytes => setting.text.map .bytes
    | _ => setting.integer?.bind (Scalar.ofInt? kind)

def value? (type : FieldType) : Option Value :=
  match type with
  | .message name => if setting.isMessage then some (.message name []) else none
  | _ => (setting.scalar? type).map .scalar

end Setting

/-- The numbers of the fields, and the positions in lists, that lead to a part of a descriptor. -/
abbrev Path := List Int32

/-- An options record in the end: the options that are present, and for each one that is set in
words the path to it within the record. -/
structure Settled where
  values : Values
  paths : List Path

namespace Linked

variable (linked : Linked)

def slot? (place : Place) (type : MessageType) (part : NamePart) : Option Slot :=
  if part.isExtension then do
    let symbol ← linked.pool.resolve? place.visible Meaning.isExtension place.scope part.name
    let extension ← linked.extension? symbol.name
    if extension.extendee = type.name then some extension.slot else none
  else type.field? part.name

/-- Does what a setting says to the field that `parts` lead to, and tells the path there. A list
grows; another field must not be present yet. -/
def assign (types : List MessageType) (place : Place) (setting : Setting) :
    (parts : List NamePart) → MessageType → Values → Option (Values × Path)
  | [], _, values => some (values, [])
  | part :: parts, type, values => do
    let slot ← linked.slot? place type part
    let values := type.besides slot values
    if parts.isEmpty then
      let value ← setting.value? slot.type
      if slot.repeated then
        let position := (values.items slot.number).length
        return (values.append slot.number [value], [.ofNat slot.number, .ofNat position])
      else if (values.lookup slot.number).any slot.isPresent then none
      else return (values.set slot.number value, [.ofNat slot.number])
    else
      match slot.type, slot.repeated with
      | .message name, false =>
        let inner ← types.find? (·.name == name)
        let (members, path) ←
          assign types place setting parts inner (values.members slot.number)
        return (values.set slot.number (.message name members), .ofNat slot.number :: path)
      | _, _ => none

def assignAll (types : List MessageType) (place : Place) (type : MessageType) :
    List Setting → Values → Option (Values × List Path)
  | [], values => some (values, [])
  | setting :: settings, values => do
    let (values, path) ← linked.assign types place setting setting.parts type values
    let (values, paths) ← assignAll types place type settings values
    return (values, path :: paths)

/-- The message types to read an options record by, which are those of the format itself if its own
message is not declared. -/
def optionTypes (form : Form) (name : String) : List MessageType :=
  if linked.types.any (·.name == name) then linked.types else Standard.types form name

/-- Reads an options record, and carries out what is set in words. -/
def settle? (place : Place) (form : Form) (decl : OptionsDecl) : Option Settled := do
  let name ← form.declaredName?
  let types := linked.optionTypes form name
  let type ← types.find? (·.name == name)
  let (values, _) ← readValues types nestingLimit type none [] decl.bytes
  let (values, paths) ← linked.assignAll types place type decl.settings values
  let present := values.filter fun (number, value) => (type.slot? number).all (·.isPresent value)
  return ⟨present, paths⟩

end Linked

namespace Values

def scalars (values : Values) (number : Nat) : List Scalar :=
  match values.lookup number with
  | some (.scalar value) => [value]
  | some (.list items) => items.filterMap fun
    | .scalar value => some value
    | _ => none
  | _ => []

/-- The text of a plain option; of several the last counts. -/
def text? (values : Values) (number : Nat) : Option String :=
  (values.scalars number).getLast?.bind fun
    | .text value => some value
    | .bytes content => utf8? content
    | _ => none

def flag (values : Values) (number : Nat) : Bool :=
  (values.scalars number).getLast?.any fun
    | .varint n => n != 0
    | _ => false

end Values

end ClientGen.Proto
