import ClientGen.Json.Token

namespace ClientGen.Json

/-- A container whose end is still to come, with what it holds in reverse: an array, or an object
that waits for the value of `key`. -/
inductive Frame
  | array (items : List Json)
  | object (members : List (Option String × Json)) (key : Option String)

/-- What a reader expects next, inside the containers of `stack`. -/
inductive Reader
  | wantValue (stack : List Frame)
  | wantItem (stack : List Frame)
  | afterItem (items : List Json) (stack : List Frame)
  | wantMember (stack : List Frame)
  | wantKey (members : List (Option String × Json)) (stack : List Frame)
  | wantColon (members : List (Option String × Json)) (key : Option String) (stack : List Frame)
  | afterMember (members : List (Option String × Json)) (stack : List Frame)
  | done (value : Json)

namespace Reader

def deliver (value : Json) : List Frame → Reader
  | [] => .done value
  | .array items :: stack => .afterItem (value :: items) stack
  | .object members key :: stack => .afterMember ((key, value) :: members) stack

def beginValue (stack : List Frame) : Token → Option Reader
  | .beginArray => some (.wantItem stack)
  | .beginObject => some (.wantMember stack)
  | .atom value => some (deliver value stack)
  | _ => none

def step : Reader → Token → Option Reader
  | .wantValue stack, token => beginValue stack token
  | .wantItem stack, .endArray => some (deliver (.array []) stack)
  | .wantItem stack, token => beginValue (.array [] :: stack) token
  | .afterItem items stack, .comma => some (.wantValue (.array items :: stack))
  | .afterItem items stack, .endArray => some (deliver (.array items.reverse) stack)
  | .wantMember stack, .endObject => some (deliver (.object []) stack)
  | .wantMember stack, .atom (.string key) => some (.wantColon [] key stack)
  | .wantKey members stack, .atom (.string key) => some (.wantColon members key stack)
  | .wantColon members key stack, .colon => some (.wantValue (.object members key :: stack))
  | .afterMember members stack, .comma => some (.wantKey members stack)
  | .afterMember members stack, .endObject => some (deliver (.object members.reverse) stack)
  | _, _ => none

def finish : Reader → Option Json
  | .done value => some value
  | _ => none

end Reader

def read? (text : List Char) : Option Json := do
  let tokens ← tokens? text
  let reader ← tokens.foldlM Reader.step (.wantValue [])
  reader.finish

end ClientGen.Json
