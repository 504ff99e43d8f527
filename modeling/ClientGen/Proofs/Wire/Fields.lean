import ClientGen.Proofs.Wire.Primitives

namespace ClientGen.Wire

mutual

/-- Whether a payload can be written: numbers and sizes have 64 bits. -/
def Payload.Fits : Payload → Prop
  | .varint value => value < UInt64.size
  | .fixed64 bytes => bytes.length = 8
  | .bytes content => content.length < UInt64.size
  | .group fields => FieldsFit fields
  | .fixed32 bytes => bytes.length = 4

def FieldsFit : List (Nat × Payload) → Prop
  | [] => True
  | (number, payload) :: fields => (0 < number ∧ number < 536870912) ∧ payload.Fits ∧ FieldsFit fields

end

mutual

def Payload.items (number : Nat) : Payload → List Item
  | .group fields => .beginGroup number :: (itemsOf fields ++ [.endGroup number])
  | payload => [.field number payload]

def itemsOf : List (Nat × Payload) → List Item
  | [] => []
  | (number, payload) :: fields => payload.items number ++ itemsOf fields

end

theorem readKey_writeKey {number wireType : Nat} (rest : Bytes)
    (hn : 0 < number ∧ number < 536870912) (hw : wireType < 6) :
    readKey (writeKey number wireType ++ rest) = some ((number, wireType), rest) := by
  have hkey : 8 * number + wireType < 4294967296 := by omega
  have hread : readVarint (writeKey number wireType ++ rest) =
      some (8 * number + wireType, rest) :=
    readVarint_writeVarint rest (Nat.lt_trans hkey (by decide))
  have hdiv : (8 * number + wireType) / 8 = number := by omega
  have hmod : (8 * number + wireType) % 8 = wireType := by omega
  have hvalid : (decide (8 * number + wireType < 8) || decide (UInt32.size ≤ 8 * number + wireType) ||
      decide (6 ≤ (8 * number + wireType) % 8)) = false := by
    have hsize : UInt32.size = 4294967296 := rfl
    simp only [hmod, hsize, Bool.or_eq_false_iff, decide_eq_false_iff_not]
    omega
  rw [readKey, hread, Option.bind_eq_bind, Option.bind_some]
  dsimp only
  rw [hvalid, hdiv, hmod]
  rfl

theorem readItem_of_body {number wireType : Nat} {body rest : Bytes} {item : Item}
    (hn : 0 < number ∧ number < 536870912) (hw : wireType < 6)
    (h : readBody number wireType body = some (item, rest)) :
    readItem (writeKey number wireType ++ body) = some (item, rest) := by
  rw [readItem, readKey_writeKey body hn hw]
  exact h

theorem readBody_block (number : Nat) {content : Bytes} (rest : Bytes)
    (h : content.length < UInt64.size) :
    readBody number 2 (writeBlock content ++ rest) = some (.field number (.bytes content), rest) := by
  rw [writeBlock, List.append_assoc, readBody, readVarint_writeVarint _ h]
  simp [take?_append]

theorem readItems_of_readItem {bytes rest : Bytes} {item : Item}
    (h : readItem bytes = some (item, rest)) :
    readItems bytes = (readItems rest).map (item :: ·) := by
  have hlength := length_lt_of_readItem h
  have hne : bytes.isEmpty = false := by
    cases bytes with
    | nil => exact absurd hlength (Nat.not_lt_zero _)
    | cons b bytes => rfl
  rw [readItems, hne]
  simp only [Bool.false_eq_true, if_false]
  split
  · rename_i hnone
    rw [h] at hnone
    cases hnone
  · rename_i other tail hsome
    rw [h] at hsome
    cases hsome
    rfl

mutual

theorem readItems_writeField {number : Nat} {payload : Payload} (rest : Bytes)
    (hn : 0 < number ∧ number < 536870912) (h : payload.Fits) :
    readItems (writeField number payload ++ rest) =
      (readItems rest).map (payload.items number ++ ·) := by
  match payload with
  | .varint value =>
    rw [writeField, List.append_assoc]
    refine readItems_of_readItem (readItem_of_body hn (by decide) ?_)
    rw [readBody, readVarint_writeVarint _ h]
    rfl
  | .fixed64 bytes =>
    rw [writeField, List.append_assoc]
    refine readItems_of_readItem (readItem_of_body hn (by decide) ?_)
    have htake := take?_append bytes rest
    rw [show bytes.length = 8 from h] at htake
    rw [readBody, htake]
    rfl
  | .bytes content =>
    rw [writeField, List.append_assoc, List.append_assoc, ← List.append_assoc (writeVarint _)]
    exact readItems_of_readItem (readItem_of_body hn (by decide) (readBody_block number rest h))
  | .fixed32 bytes =>
    rw [writeField, List.append_assoc]
    refine readItems_of_readItem (readItem_of_body hn (by decide) ?_)
    have htake := take?_append bytes rest
    rw [show bytes.length = 4 from h] at htake
    rw [readBody, htake]
    rfl
  | .group fields =>
    have hend : readItems (writeKey number 4 ++ rest) =
        (readItems rest).map (.endGroup number :: ·) :=
      readItems_of_readItem (readItem_of_body hn (by decide) rfl)
    have hfields : readItems (write fields ++ (writeKey number 4 ++ rest)) = _ :=
      readItems_write _ h
    have hbegin (more : Bytes) : readItems (writeKey number 3 ++ more) =
        (readItems more).map (.beginGroup number :: ·) :=
      readItems_of_readItem (readItem_of_body hn (by decide) rfl)
    rw [writeField, List.append_assoc, List.append_assoc, hbegin, hfields, hend]
    cases readItems rest with
    | none => rfl
    | some items => simp [Payload.items]

theorem readItems_write {fields : List (Nat × Payload)} (rest : Bytes) (h : FieldsFit fields) :
    readItems (write fields ++ rest) = (readItems rest).map (itemsOf fields ++ ·) := by
  match fields with
  | [] =>
    rw [write, List.nil_append]
    cases readItems rest <;> rfl
  | (number, payload) :: fields =>
    obtain ⟨hn, hpayload, hfields⟩ := h
    rw [write, List.append_assoc, readItems_writeField _ hn hpayload, readItems_write rest hfields]
    cases readItems rest with
    | none => rfl
    | some items => simp [itemsOf]

end

namespace Nesting

mutual

theorem foldlM_items {number : Nat} {payload : Payload} (before : List Field)
    (groups : List (Nat × List Field)) (more : List Item) :
    (payload.items number ++ more).foldlM step ⟨before, groups⟩ =
      more.foldlM step ⟨(number, payload) :: before, groups⟩ := by
  match payload with
  | .varint _ | .fixed64 _ | .bytes _ | .fixed32 _ => rfl
  | .group fields =>
    have hfields := foldlM_itemsOf fields [] ((number, before) :: groups)
      (.endGroup number :: more)
    rw [Payload.items, List.cons_append, List.append_assoc, List.foldlM_cons]
    refine hfields.trans ?_
    rw [List.foldlM_cons, step, if_pos rfl, List.append_nil, List.reverse_reverse]
    rfl

theorem foldlM_itemsOf (fields : List (Nat × Payload)) (before : List Field)
    (groups : List (Nat × List Field)) (more : List Item) :
    (itemsOf fields ++ more).foldlM step ⟨before, groups⟩ =
      more.foldlM step ⟨fields.reverse ++ before, groups⟩ := by
  match fields with
  | [] => rfl
  | (number, payload) :: fields =>
    rw [itemsOf, List.append_assoc, foldlM_items, foldlM_itemsOf, List.reverse_cons,
      List.append_assoc]
    rfl

end

end Nesting

/-- The fields that are written are those that are read. -/
theorem read?_write {fields : List Field} (h : FieldsFit fields) :
    read? (write fields) = some fields := by
  have hempty : readItems [] = some [] := by
    rw [readItems]
    rfl
  have hitems := readItems_write [] h
  rw [List.append_nil, hempty, Option.map_some, List.append_nil] at hitems
  have hfold := Nesting.foldlM_itemsOf fields [] [] []
  rw [List.append_nil, List.append_nil] at hfold
  rw [read?, hitems, Option.bind_eq_bind, Option.bind_some, hfold]
  simp [Nesting.finish]

theorem fieldsFit_iff {fields : List Field} :
    FieldsFit fields ↔ ∀ field ∈ fields, (0 < field.1 ∧ field.1 < 536870912) ∧ field.2.Fits := by
  induction fields with
  | nil => simp [FieldsFit]
  | cons field fields ih => simp only [FieldsFit, ih, List.forall_mem_cons, and_assoc]

/-- A block is no longer than what it stands in. -/
theorem length_le_of_mem {fields : List Field} {number : Nat} {content : Bytes}
    (h : (number, Payload.bytes content) ∈ fields) : content.length ≤ (write fields).length := by
  induction fields with
  | nil => cases h
  | cons field fields ih =>
    rw [write, List.length_append]
    obtain rfl | h := List.mem_cons.mp h
    · simp only [writeField, List.length_append]
      omega
    · have := ih h
      omega

end ClientGen.Wire
