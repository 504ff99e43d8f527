namespace ClientGen

/-- A number as it is written. `integer true 0` is the numeral `-0`, which is not `0`. -/
inductive Json.Number
  | integer (negative : Bool) (magnitude : Nat)
  | decimal (numeral : String)
deriving DecidableEq, Repr

/-- A JSON document. A string is `none` if one of its escapes stands for half a surrogate pair: such
a string is well-formed and denotes no text. Members keep their order and may repeat a key. -/
inductive Json
  | null
  | bool (value : Bool)
  | number (value : Json.Number)
  | string (text : Option String)
  | array (items : List Json)
  | object (members : List (Option String × Json))
deriving Repr

namespace Json

instance : Inhabited Json := ⟨.null⟩

def ofString (text : String) : Json := .string (some text)

def ofInt : Int → Json
  | .ofNat n => .number (.integer false n)
  | .negSucc n => .number (.integer true (n + 1))

def ofNat (n : Nat) : Json := .number (.integer false n)

def ofOption {α : Type} (encode : α → Json) (value : Option α) : Json :=
  value.elim .null encode

def ofList {α : Type} (encode : α → Json) (items : List α) : Json :=
  .array (items.map encode)

def record (members : List (String × Json)) : Json :=
  .object (members.map fun (key, value) => (some key, value))

def get? (json : Json) (key : String) : Option Json :=
  match json with
  | .object members => members.reverse.lookup (some key)
  | _ => none

end Json

end ClientGen
