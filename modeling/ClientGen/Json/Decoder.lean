import ClientGen.Json.Value

namespace ClientGen.Json

/-- Reads a value from a document of which at most `budget` more levels of containers may be
opened. -/
abbrev Decoder (α : Type) := (budget : Nat) → Json → Option α

namespace Decoder

variable {α : Type}

def text : Decoder String
  | _, .string text => text
  | _, _ => none

def bool : Decoder Bool
  | _, .bool value => some value
  | _, _ => none

/-- Only numerals without point and exponent are integers, and `-0` is none. -/
def int32 : Decoder Int32
  | _, .number (.integer false n) => if n ≤ 2147483647 then some (.ofInt n) else none
  | _, .number (.integer true n) => if 0 < n ∧ n ≤ 2147483648 then some (.ofInt (-n)) else none
  | _, _ => none

def nullable (decode : Decoder α) : Decoder (Option α)
  | _, .null => some none
  | budget, json => (decode budget json).map some

def list (decode : Decoder α) : Decoder (List α)
  | budget + 1, .array items => items.mapM (decode budget)
  | _, _ => none

/-- The members of a record: for each of `names`, in order, what the document gives for it. An
object gives members by key, ignores keys that are no names, and gives none twice; an array gives
them in order and may end early. -/
def slots? (names : List String) : Json → Option (List (Option Json))
  | .object members =>
    let keys := members.filterMap fun (key, _) => key.filter names.contains
    if members.all (·.1.isSome) && keys.Nodup then
      some (names.map fun name => members.lookup (some name))
    else none
  | .array items =>
    if items.length ≤ names.length then
      some (items.map some ++ List.replicate (names.length - items.length) none)
    else none
  | _ => none

def required (decode : Decoder α) (budget : Nat) (slot : Option Json) : Option α :=
  slot.bind (decode budget)

def withDefault (default : α) (decode : Decoder α) (budget : Nat) : Option Json → Option α
  | none => some default
  | some json => decode budget json

/-- A value of an enumeration: its name, or an object with its name as the only key. -/
def choice (unit : String → Option α) (payload : String → Decoder α) : Decoder α
  | _, .string (some name) => unit name
  | budget + 1, .object [(some name, .null)] => (unit name).or (payload name budget .null)
  | budget + 1, .object [(some name, value)] => payload name budget value
  | _, _ => none

end Decoder

end ClientGen.Json
