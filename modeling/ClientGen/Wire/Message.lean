import ClientGen.Wire.Varint

namespace ClientGen.Wire

inductive Payload
  | varint (value : Nat)
  | fixed64 (bytes : Bytes)
  | bytes (content : Bytes)
  | group (fields : List (Nat × Payload))
  | fixed32 (bytes : Bytes)

abbrev Field := Nat × Payload

mutual

/-- One, and one more for each level of groups around the innermost field. -/
def Payload.depth : Payload → Nat
  | .group fields => groupDepth fields + 1
  | _ => 1

def groupDepth : List (Nat × Payload) → Nat
  | [] => 0
  | (_, payload) :: fields => max payload.depth (groupDepth fields)

end

inductive Item
  | field (number : Nat) (payload : Payload)
  | beginGroup (number : Nat)
  | endGroup (number : Nat)

def take? (n : Nat) (bytes : Bytes) : Option (Bytes × Bytes) :=
  if n ≤ bytes.length then some (bytes.take n, bytes.drop n) else none

def readBody (number wireType : Nat) (bytes : Bytes) : Option (Item × Bytes) :=
  match wireType with
  | 0 => (readVarint bytes).map fun (n, rest) => (.field number (.varint n), rest)
  | 1 => (take? 8 bytes).map fun (content, rest) => (.field number (.fixed64 content), rest)
  | 2 => do
    let (size, rest) ← readVarint bytes
    let (content, rest) ← take? size rest
    return (.field number (.bytes content), rest)
  | 3 => some (.beginGroup number, bytes)
  | 4 => some (.endGroup number, bytes)
  | 5 => (take? 4 bytes).map fun (content, rest) => (.field number (.fixed32 content), rest)
  | _ => none

/-- Reads a key: a field number, from 1 on, and a wire type. It fits 32 bits. -/
def readKey (bytes : Bytes) : Option ((Nat × Nat) × Bytes) := do
  let (key, rest) ← readVarint bytes
  if key < 8 || UInt32.size ≤ key || 6 ≤ key % 8 then none else some ((key / 8, key % 8), rest)

def readItem (bytes : Bytes) : Option (Item × Bytes) := do
  let ((number, wireType), rest) ← readKey bytes
  readBody number wireType rest

theorem length_le_of_take? {n : Nat} {bytes content rest : Bytes}
    (h : take? n bytes = some (content, rest)) : rest.length ≤ bytes.length := by
  unfold take? at h
  split at h
  · simp only [Option.some.injEq, Prod.mk.injEq] at h
    rw [← h.2, List.length_drop]
    omega
  · simp at h

theorem length_le_of_readBody {number wireType : Nat} {bytes rest : Bytes} {item : Item}
    (h : readBody number wireType bytes = some (item, rest)) : rest.length ≤ bytes.length := by
  unfold readBody at h
  split at h
  · obtain ⟨⟨n, tail⟩, hn, he⟩ := Option.map_eq_some_iff.1 h
    have := length_lt_of_readVarint hn
    simp_all
    omega
  · obtain ⟨⟨c, tail⟩, hc, he⟩ := Option.map_eq_some_iff.1 h
    have := length_le_of_take? hc
    simp_all
  · obtain ⟨⟨n, tail⟩, hn, he⟩ := Option.bind_eq_some_iff.1 h
    obtain ⟨⟨c, tail'⟩, hc, he⟩ := Option.bind_eq_some_iff.1 he
    have := length_lt_of_readVarint hn
    have := length_le_of_take? hc
    simp_all
    omega
  · simp_all
  · simp_all
  · obtain ⟨⟨c, tail⟩, hc, he⟩ := Option.map_eq_some_iff.1 h
    have := length_le_of_take? hc
    simp_all
  · simp at h

theorem length_lt_of_readKey {bytes rest : Bytes} {key : Nat × Nat}
    (h : readKey bytes = some (key, rest)) : rest.length < bytes.length := by
  obtain ⟨⟨n, tail⟩, hn, h⟩ := Option.bind_eq_some_iff.1 h
  have := length_lt_of_readVarint hn
  dsimp only at h
  split at h
  · simp at h
  · simp_all

theorem length_lt_of_readItem {bytes rest : Bytes} {item : Item}
    (h : readItem bytes = some (item, rest)) : rest.length < bytes.length := by
  obtain ⟨⟨key, tail⟩, hk, h⟩ := Option.bind_eq_some_iff.1 h
  have := length_lt_of_readKey hk
  have := length_le_of_readBody h
  omega

def readItems (bytes : Bytes) : Option (List Item) :=
  if bytes.isEmpty then some []
  else match _h : readItem bytes with
    | none => none
    | some (item, rest) => (readItems rest).map (item :: ·)
termination_by bytes.length
decreasing_by exact length_lt_of_readItem _h

/-- The fields read so far, in reverse, and the groups that are still open, each with the fields
before it. -/
structure Nesting where
  fields : List Field
  groups : List (Nat × List Field)

namespace Nesting

def step : Nesting → Item → Option Nesting
  | ⟨fields, groups⟩, .field number payload => some ⟨(number, payload) :: fields, groups⟩
  | ⟨fields, groups⟩, .beginGroup number => some ⟨[], (number, fields) :: groups⟩
  | ⟨fields, (number, before) :: groups⟩, .endGroup other =>
    if number = other then some ⟨(number, .group fields.reverse) :: before, groups⟩ else none
  | ⟨_, []⟩, .endGroup _ => none

def finish : Nesting → Option (List Field)
  | ⟨fields, []⟩ => some fields.reverse
  | _ => none

end Nesting

/-- The fields of a message, in order. -/
def read? (bytes : Bytes) : Option (List Field) := do
  let items ← readItems bytes
  let nesting ← items.foldlM Nesting.step ⟨[], []⟩
  nesting.finish

def writeKey (number wireType : Nat) : Bytes :=
  writeVarint (8 * number + wireType)

mutual

def writeField (number : Nat) : Payload → Bytes
  | .varint value => writeKey number 0 ++ writeVarint value
  | .fixed64 bytes => writeKey number 1 ++ bytes
  | .bytes content => writeKey number 2 ++ writeVarint content.length ++ content
  | .group fields => writeKey number 3 ++ write fields ++ writeKey number 4
  | .fixed32 bytes => writeKey number 5 ++ bytes

def write : List (Nat × Payload) → Bytes
  | [] => []
  | (number, payload) :: fields => writeField number payload ++ write fields

end

def textField (number : Nat) (text : String) : Field :=
  (number, .bytes text.toUTF8.toList)

end ClientGen.Wire
