import ClientGen.Wire.Message

namespace ClientGen.Wire

def readBlock (bytes : Bytes) : Option (Bytes × Bytes) := do
  let (size, rest) ← readVarint bytes
  take? size rest

/-- Reads fields from left to right. What follows a key is left to `step`, which knows the number
and the wire type and says where the next key begins. The fields of a group end with the key that
closes it; other fields end with the bytes. -/
def foldFields {σ : Type} (step : σ → Nat → Nat → Bytes → Option (σ × Bytes)) (group : Option Nat)
    (state : σ) (bytes : Bytes) : Option (σ × Bytes) :=
  if bytes.isEmpty then if group.isNone then some (state, []) else none
  else match _h : readKey bytes with
    | none => none
    | some ((number, wireType), rest) =>
      if group.isSome && wireType == 4 then
        if group = some number then some (state, rest) else none
      else match step state number wireType rest with
        | none => none
        | some (state, next) =>
          if next.length ≤ rest.length then foldFields step group state next else none
termination_by bytes.length
decreasing_by
  have := length_lt_of_readKey _h
  omega

end ClientGen.Wire
