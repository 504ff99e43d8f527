import ClientGen.Proto.Decl
import ClientGen.Text.Split

namespace ClientGen.Proto

open Text

/-- A name within a scope. The outermost scope has no name, and no dot follows it. -/
def qualified (scope name : String) : String :=
  if scope.isEmpty then name else scope ++ "." ++ name

inductive Meaning
  | package
  | message (decl : MessageDecl)
  | enum (decl : EnumDecl)
  | value
  | field
  | oneof
  | service
  | method
  | extension (decl : FieldDecl)

namespace Meaning

def isPackage : Meaning → Bool
  | .package => true
  | _ => false

def isMessage : Meaning → Bool
  | .message _ => true
  | _ => false

def isType : Meaning → Bool
  | .message _ | .enum _ => true
  | _ => false

def isExtension : Meaning → Bool
  | .extension _ => true
  | _ => false

def isScope : Meaning → Bool
  | .package | .message _ | .enum _ | .service => true
  | _ => false

end Meaning

/-- A full name, without a leading dot, what it stands for, and the position of the file that
declares it. -/
structure Symbol where
  name : String
  meaning : Meaning
  file : Nat

abbrev Names := List (String × Meaning)

def plainNames (scope : String) (meaning : Meaning) (names : List String) : Names :=
  names.map fun name => (qualified scope name, meaning)

/-- The values of an enum lie beside the enum, not in it. -/
def enumNames (scope : String) (enum : EnumDecl) : Names :=
  (qualified scope enum.name, .enum enum) :: plainNames scope .value (enum.values.map (·.name))

def extensionNames (scope : String) (extensions : List FieldDecl) : Names :=
  extensions.map fun extension => (qualified scope extension.name, .extension extension)

mutual

def messageNames (scope : String) : MessageDecl → Names
  | ⟨name, fields, messages, enums, oneofs, ranges, reserved, extensions, isMapEntry, options⟩ =>
    let inner := qualified scope name
    let decl :=
      ⟨name, fields, messages, enums, oneofs, ranges, reserved, extensions, isMapEntry, options⟩
    (inner, .message decl) ::
      (plainNames inner .field (fields.map (·.name)) ++
        plainNames inner .oneof (oneofs.map (·.name)) ++
        messagesNames inner messages ++
        enums.flatMap (enumNames inner) ++
        extensionNames inner extensions)

def messagesNames (scope : String) : List MessageDecl → Names
  | [] => []
  | message :: messages => messageNames scope message ++ messagesNames scope messages

end

def serviceNames (scope : String) (service : ServiceDecl) : Names :=
  let inner := qualified scope service.name
  (inner, .service) :: plainNames inner .method (service.methods.map (·.name))

def dottedPrefixes : (read : List Char) → List Char → List String
  | _, [] => []
  | read, c :: rest =>
    (if c = '.' then [.ofList read.reverse] else []) ++ dottedPrefixes (c :: read) rest

def packageNames (package : String) : Names :=
  if package.isEmpty then []
  else (dottedPrefixes [] package.toList ++ [package]).map (·, .package)

def FileDecl.names (file : FileDecl) : Names :=
  packageNames file.package ++
    messagesNames file.package file.messages ++
    file.enums.flatMap (enumNames file.package) ++
    file.services.flatMap (serviceNames file.package) ++
    extensionNames file.package file.extensions

def symbolsOf (files : List FileDecl) : List Symbol :=
  (files.mapIdx fun i file => file.names.map fun (name, meaning) => ⟨name, meaning, i⟩).flatten

/-- Whether two symbols may not stand together: only packages share a name. -/
def Symbol.clashes (a b : Symbol) : Bool :=
  a.name == b.name && !(a.meaning.isPackage && b.meaning.isPackage)

def noClash : List Symbol → Bool
  | [] => true
  | symbol :: symbols => !symbols.any symbol.clashes && noClash symbols

end ClientGen.Proto
