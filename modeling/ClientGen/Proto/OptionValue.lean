import ClientGen.Proto.Standard

namespace ClientGen.Proto

open Wire

/-- What a field of a message holds. Of a map the entries are the items, and of a field of no known
meaning the occurrences. -/
inductive Value
  | scalar (value : Scalar)
  | message (type : String) (members : List (Nat × Value))
  | list (items : List Value)

abbrev Values := List (Nat × Value)

namespace Values

def set (values : Values) (number : Nat) (value : Value) : Values :=
  values.filter (·.1 != number) ++ [(number, value)]

def items (values : Values) (number : Nat) : List Value :=
  match values.lookup number with
  | some (.list items) => items
  | _ => []

def members (values : Values) (number : Nat) : Values :=
  match values.lookup number with
  | some (.message _ members) => members
  | _ => []

def append (values : Values) (number : Nat) (more : List Value) : Values :=
  values.set number (.list (values.items number ++ more))

/-- Puts what an occurrence of a field gives into the field. A list grows; elsewhere the last
counts. -/
def put (values : Values) (slot : Slot) (given : List Value) : Values :=
  if slot.repeated then values.append slot.number given
  else (given.getLast?.map (values.set slot.number)).getD values

end Values

def Scalar.readPacked? (kind : Schema.FieldKind) (bytes : Bytes) : Option (List Scalar) :=
  if bytes.isEmpty then some []
  else match Scalar.read? kind bytes with
    | none => none
    | some (scalar, rest) =>
      if rest.length < bytes.length then (readPacked? kind rest).map (scalar :: ·) else none
termination_by bytes.length

def Slot.readScalars? (slot : Slot) (wireType : Nat) (bytes : Bytes) :
    Option (List Scalar × Bytes) :=
  let form := wireForm slot.type.kind
  if wireType = form.wireType then
    (Scalar.read? slot.type.kind bytes).map fun (scalar, rest) => ([scalar], rest)
  else if slot.repeated && wireType == 2 then do
    let (content, rest) ← readBlock bytes
    return (← Scalar.readPacked? slot.type.kind content, rest)
  else none

def readUnknown? (wireType : Nat) (bytes : Bytes) : Option (Scalar × Bytes) :=
  match wireType with
  | 0 => Scalar.read? .uint64 bytes
  | 1 => Scalar.read? .fixed64 bytes
  | 2 => Scalar.read? .bytes bytes
  | 5 => Scalar.read? .fixed32 bytes
  | _ => none

namespace MessageType

/-- The field of this number, or else the first extension of it. -/
def slot? (type : MessageType) (number : Nat) : Option Slot :=
  (type.fields ++ type.extensions).find? (·.number == number)

def field? (type : MessageType) (name : String) : Option Slot :=
  type.fields.find? (·.name == name)

/-- The values without those that cannot stand beside a value of `slot`: the others of its
`oneof`. -/
def besides (type : MessageType) (slot : Slot) (values : Values) : Values :=
  if slot.oneof.isNone then values
  else values.filter fun (number, _) =>
    number == slot.number || (type.slot? number).all (·.oneof != slot.oneof)

def entry (type : MessageType) : MessageType where
  name := type.name
  fields := type.fields.filter fun slot => slot.number == 1 || slot.number == 2

end MessageType

def Slot.entryType? (slot : Slot) (types : List MessageType) : Option MessageType :=
  match slot.type with
  | .message name => types.find? fun type => type.name == name && type.isMapEntry && slot.repeated
  | _ => none

def unknownGroup : MessageType where
  name := ""
  fields := []

/-- Reads the fields of a message of known type, or of a group in one, onto the values read before.
It may hold `budget` more levels of messages and groups. An entry of a map is no level, but leaves
out only what a level has room for. -/
def readValues (types : List MessageType) (budget : Nat) (type : MessageType) (group : Option Nat)
    (values : Values) (bytes : Bytes) : Option (Values × Bytes) :=
  let readGroup (inner : MessageType) (number : Nat) (before : Values) (bytes : Bytes) :
      Option (Values × Bytes) :=
    match budget with
    | 0 => none
    | budget + 1 => readValues types budget inner (some number) before bytes
  let readMessage (inner : MessageType) (before : Values) (bytes : Bytes) :
      Option (Values × Bytes) :=
    match budget with
    | 0 => none
    | budget + 1 => do
      let (content, rest) ← readBlock bytes
      let (members, _) ← readValues types budget inner none before content
      return (members, rest)
  let readSlot (slot : Slot) (values : Values) (wireType : Nat) (bytes : Bytes) :
      Option (Values × Bytes) :=
    match slot.type with
    | .message name => do
      let inner ← types.find? (·.name == name)
      let before := if slot.repeated then [] else values.members slot.number
      let (members, rest) ←
        if slot.isGroup && wireType == 3 then readGroup inner slot.number before bytes
        else if !slot.isGroup && wireType == 2 then readMessage inner before bytes
        else none
      return (values.put slot [.message name members], rest)
    | _ => do
      let (scalars, rest) ← slot.readScalars? wireType bytes
      return (values.put slot (scalars.map .scalar), rest)
  let readEntry (entry : MessageType) (bytes : Bytes) : Option (Values × Bytes) :=
    foldFields (fun values number wireType bytes =>
      match entry.slot? number with
      | some slot => readSlot slot values wireType bytes
      | none =>
        if budget = 0 then none
        else if wireType = 3 then
          (readGroup unknownGroup number [] bytes).map fun (_, rest) => (values, rest)
        else (readUnknown? wireType bytes).map fun (_, rest) => (values, rest)) none [] bytes
  foldFields (fun values number wireType bytes =>
    match type.slot? number with
    | none =>
      if wireType = 3 then
        (readGroup unknownGroup number [] bytes).map fun (_, rest) => (values, rest)
      else (readUnknown? wireType bytes).map fun (scalar, rest) =>
        (values.append number [.scalar scalar], rest)
    | some slot =>
      let values := type.besides slot values
      match slot.entryType? types with
      | none => readSlot slot values wireType bytes
      | some entry => do
        let (content, rest) ← readBlock bytes
        let (members, _) ← readEntry entry.entry content
        return (values.append number [.message entry.name members], rest)) group values bytes
termination_by structural budget

/-- Whether a field that holds this value is present. Where presence is not tracked, a default is as
good as nothing. -/
def Slot.isPresent (slot : Slot) : Value → Bool
  | .scalar value => slot.tracksPresence || !value.same slot.type.kind slot.default
  | .list items => slot.tracksPresence || !items.isEmpty
  | .message _ _ => true

end ClientGen.Proto
