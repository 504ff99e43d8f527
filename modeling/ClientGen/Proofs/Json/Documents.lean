import ClientGen.Json.Reader
import ClientGen.Proofs.Json.Tokens

namespace ClientGen.Json

mutual

def tokens : Json → List Token
  | .array [] => [.beginArray, .endArray]
  | .array (item :: items) => .beginArray :: (item.tokens ++ tokensOfItems items)
  | .object [] => [.beginObject, .endObject]
  | .object ((key, value) :: members) =>
    .beginObject :: .atom (.string key) :: .colon :: (value.tokens ++ tokensOfMembers members)
  | leaf => [.atom leaf]

def tokensOfItems : List Json → List Token
  | [] => [.endArray]
  | item :: items => .comma :: (item.tokens ++ tokensOfItems items)

def tokensOfMembers : List (Option String × Json) → List Token
  | [] => [.endObject]
  | (key, value) :: members =>
    .comma :: .atom (.string key) :: .colon :: (value.tokens ++ tokensOfMembers members)

end

def Spells (text : List Char) (json : Json) : Prop :=
  SpellsTokens text json.tokens

mutual

def depth : Json → Nat
  | .array items => depthOfItems items + 1
  | .object members => depthOfMembers members + 1
  | _ => 0

def depthOfItems : List Json → Nat
  | [] => 0
  | item :: items => max item.depth (depthOfItems items)

def depthOfMembers : List (Option String × Json) → Nat
  | [] => 0
  | (_, value) :: members => max value.depth (depthOfMembers members)

end

theorem depth_le_of_mem_items {item : Json} {items : List Json} (h : item ∈ items) :
    item.depth ≤ depthOfItems items := by
  induction items with
  | nil => cases h
  | cons first items ih =>
    rw [depthOfItems]
    obtain rfl | h := List.mem_cons.mp h
    · exact Nat.le_max_left _ _
    · exact Nat.le_trans (ih h) (Nat.le_max_right _ _)

theorem depth_le_of_mem_members {key : Option String} {value : Json}
    {members : List (Option String × Json)} (h : (key, value) ∈ members) :
    value.depth ≤ depthOfMembers members := by
  induction members with
  | nil => cases h
  | cons first members ih =>
    rw [depthOfMembers]
    obtain rfl | h := List.mem_cons.mp h
    · exact Nat.le_max_left _ _
    · exact Nat.le_trans (ih h) (Nat.le_max_right _ _)

namespace Reader

theorem foldlM_wantItem (json : Json) (stack : List Frame) (more : List Token) :
    (json.tokens ++ more).foldlM step (.wantItem stack) =
      (json.tokens ++ more).foldlM step (.wantValue (.array [] :: stack)) := by
  match json with
  | .null | .bool _ | .number _ | .string _ => rfl
  | .array [] | .array (_ :: _) | .object [] | .object (_ :: _) => rfl

mutual

/-- A reader that wants a value takes the tokens of a document for it. -/
theorem foldlM_tokens (json : Json) (stack : List Frame) (more : List Token) :
    (json.tokens ++ more).foldlM step (.wantValue stack) =
      more.foldlM step (deliver json stack) := by
  match json with
  | .null | .bool _ | .number _ | .string _ => rfl
  | .array [] | .object [] => rfl
  | .array (item :: items) =>
    rw [tokens, List.cons_append, List.append_assoc, List.foldlM_cons]
    refine (foldlM_wantItem item stack _).trans ?_
    rw [foldlM_tokens item]
    exact foldlM_tokensOfItems [item] items stack more
  | .object ((key, value) :: members) =>
    rw [tokens, List.cons_append, List.cons_append, List.cons_append, List.append_assoc]
    refine (foldlM_tokens value (.object [] key :: stack) _).trans ?_
    exact foldlM_tokensOfMembers [(key, value)] members stack more

theorem foldlM_tokensOfItems (before items : List Json) (stack : List Frame) (more : List Token) :
    (tokensOfItems items ++ more).foldlM step (.afterItem before stack) =
      more.foldlM step (deliver (.array (before.reverse ++ items)) stack) := by
  match items with
  | [] =>
    rw [List.append_nil]
    rfl
  | item :: items =>
    rw [tokensOfItems, List.cons_append, List.append_assoc]
    refine (foldlM_tokens item (.array before :: stack) _).trans ?_
    refine (foldlM_tokensOfItems (item :: before) items stack more).trans ?_
    rw [List.reverse_cons, List.append_assoc, List.singleton_append]

theorem foldlM_tokensOfMembers (before members : List (Option String × Json)) (stack : List Frame)
    (more : List Token) :
    (tokensOfMembers members ++ more).foldlM step (.afterMember before stack) =
      more.foldlM step (deliver (.object (before.reverse ++ members)) stack) := by
  match members with
  | [] =>
    rw [List.append_nil]
    rfl
  | (key, value) :: members =>
    rw [tokensOfMembers, List.cons_append, List.cons_append, List.cons_append, List.append_assoc]
    refine (foldlM_tokens value (.object before key :: stack) _).trans ?_
    refine (foldlM_tokensOfMembers ((key, value) :: before) members stack more).trans ?_
    rw [List.reverse_cons, List.append_assoc, List.singleton_append]

end

end Reader

/-- A text of a document is read as the document. -/
theorem read?_of_spells {text : List Char} {json : Json} (h : Spells text json) :
    read? text = some json := by
  have hfold := Reader.foldlM_tokens json [] []
  rw [List.append_nil] at hfold
  rw [read?, tokens?_of_spells h, Option.bind_eq_bind, Option.bind_some, hfold]
  rfl

end ClientGen.Json
