import ClientGen.Text.Split
import ClientGen.Text.Words

namespace ClientGen.Naming

open Text

def goField (field : String) : String :=
  upperCamelCase field

def lowerFirst (text : String) : String :=
  match text.toList with
  | [] => ""
  | c :: rest => .ofList (toLower c ++ rest)

def sameIgnoringCase (a b : String) : Bool :=
  a.toList.map Char.toLower == b.toList.map Char.toLower

/-- What a client's name begins with: the service without `Service`, and nothing when that is the
name of the package, up to the case of ASCII letters. -/
def clientStem (service pkg : String) : String :=
  let stem := (before? "Service" service).getD service
  if sameIgnoringCase stem pkg then "" else stem

def stubField (stem : String) : String :=
  if stem.isEmpty then "client" else lowerCamelCase stem ++ "Client"

end ClientGen.Naming
