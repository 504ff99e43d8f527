import ClientGen.Proto.Scope

namespace ClientGen.Proto

def validNumber (number : Int32) : Bool :=
  let n := number.toInt
  1 ≤ n && n ≤ 536870911 && !(19000 ≤ n && n ≤ 19999)

/-- What must differ between the field names of a message: letters in any case, and no
underscores. -/
def foldedName (name : String) : List Char :=
  (name.toList.filter (· != '_')).map Char.toLower

def camelName (capital : Bool) : List Char → List Char
  | [] => []
  | '_' :: rest => camelName true rest
  | c :: rest => (if capital then c.toUpper else c) :: camelName false rest

def FieldDecl.nameInJson (field : FieldDecl) : String :=
  field.jsonName.getD (.ofList (camelName false field.name.toList))

/-- Whether a number lies in a range whose last number does not belong to it. -/
def RangeDecl.contains (range : RangeDecl) (number : Int32) : Bool :=
  range.first ≤ number && number < range.last

/-- Whether a number lies in a range whose last number belongs to it. -/
def RangeDecl.containsClosed (range : RangeDecl) (number : Int32) : Bool :=
  range.first ≤ number && number ≤ range.last

def MessageDecl.isExtendedAt (message : MessageDecl) (number : Int32) : Bool :=
  message.extensionRanges.any (·.contains number)

def MessageDecl.isReservedAt (message : MessageDecl) (number : Int32) : Bool :=
  message.reservedRanges.any (·.contains number)

/-- Whether a field or extension can have its number in a message. The numbers left to extensions
are for those that name an extended message, and these have no other numbers. -/
def MessageDecl.admits (message : MessageDecl) (field : FieldDecl) : Bool :=
  validNumber field.number && !message.isReservedAt field.number &&
    message.isExtendedAt field.number == field.extendee.isSome

def MessageDecl.isValid (dialect : Dialect) (message : MessageDecl) : Bool :=
  message.fields.all message.admits &&
    (message.fields.map (·.number)).Nodup &&
    message.fields.all (fun field => field.oneofIndex.all fun position =>
      0 ≤ position.toInt && position.toInt < (message.oneofs.length : Int)) &&
    (message.fields.map (·.nameInJson)).Nodup &&
    (dialect = .proto2 || (message.fields.map (foldedName ·.name)).Nodup)

/-- That two values have one number is looked at when the options of the enum are known. -/
def EnumDecl.isValid (dialect : Dialect) (enum : EnumDecl) : Bool :=
  !enum.values.isEmpty &&
    enum.values.all (fun value => !enum.reservedRanges.any (·.containsClosed value.number)) &&
    (dialect = .proto2 || enum.values.head?.any (·.number == 0))

def FileDecl.importsExist (pool : Pool) (file : FileDecl) : Bool :=
  file.dependencies.all (fun name => (pool.fileIndex? name).isSome) &&
    (file.publicDependencies ++ file.weakDependencies).all fun position =>
      0 ≤ position.toInt && position.toInt < (file.dependencies.length : Int)

def Pool.isSound (pool : Pool) (symbol : Symbol) : Bool :=
  match pool.files[symbol.file]?.bind (·.dialect) with
  | none => false
  | some dialect =>
    match symbol.meaning with
    | .message decl => decl.isValid dialect
    | .enum decl => decl.isValid dialect
    | _ => true

def Pool.ofFiles? (files : List FileDecl) : Option Pool :=
  let pool : Pool := ⟨files, symbolsOf files⟩
  if (files.map (·.name)).Nodup && files.all (·.importsExist pool) &&
      files.all (·.dialect.isSome) && noClash pool.symbols && pool.symbols.all pool.isSound then
    some pool
  else none

end ClientGen.Proto
