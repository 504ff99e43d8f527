import ClientGen.Proto.Setting
import ClientGen.Proofs.Catalog.Lookup

namespace ClientGen.Wire

/-- What every step keeps, reading fields from left to right keeps. -/
theorem foldFields_invariant {σ : Type} {P : σ → Prop}
    {step : σ → Nat → Nat → Bytes → Option (σ × Bytes)}
    (hstep : ∀ {state number wireType bytes state' rest},
      step state number wireType bytes = some (state', rest) → P state → P state')
    {group : Option Nat} {state state' : σ} {bytes rest : Bytes}
    (h : foldFields step group state bytes = some (state', rest)) (hp : P state) : P state' := by
  fun_induction foldFields step group state bytes with
  | case1 | case4 =>
    cases h
    exact hp
  | case2 | case3 | case5 | case6 | case8 => cases h
  | case7 _ _ _ _ _ _ _ _ _ _ hs _ ih => exact ih h (hstep hs hp)

end ClientGen.Wire

namespace ClientGen.Proto

open Wire
open Schema (FieldKind)

def Scalar.Suits (kind : FieldKind) : Scalar → Prop
  | .text _ => kind = .string
  | .bytes _ => wireForm kind = .block ∧ kind ≠ .string
  | .varint _ => wireForm kind = .varint
  | .fixed64 _ => wireForm kind = .fixed64
  | .fixed32 _ => wireForm kind = .fixed32

theorem Scalar.ofVarint_suits {kind : FieldKind} (n : Nat) (h : wireForm kind = .varint) :
    (ofVarint kind n).Suits kind := by
  cases kind <;> exact h

theorem Scalar.suits_of_read? {kind : FieldKind} {bytes rest : Bytes} {scalar : Scalar}
    (h : read? kind bytes = some (scalar, rest)) : scalar.Suits kind := by
  unfold read? at h
  cases hform : wireForm kind with
  | varint =>
    rw [hform] at h
    obtain ⟨⟨n, _⟩, _, he⟩ := Option.map_eq_some_iff.mp h
    cases he
    exact ofVarint_suits n hform
  | fixed64 | fixed32 =>
    rw [hform] at h
    obtain ⟨_, _, he⟩ := Option.map_eq_some_iff.mp h
    cases he
    exact hform
  | block =>
    rw [hform] at h
    obtain ⟨⟨content, _⟩, _, h⟩ := Option.bind_eq_some_iff.mp h
    dsimp only at h
    split at h
    · rename_i hkind
      obtain ⟨text, _, he⟩ := Option.bind_eq_some_iff.mp h
      cases he
      exact hkind
    · rename_i hkind
      cases h
      exact ⟨hform, hkind⟩

/-- Whether a value can be what a field holds, of which nothing may be known. -/
inductive Value.Fits (types : List MessageType) : Option Slot → Value → Prop
  | unknown {items : List Value} : Fits types none (.list items)
  | list {slot : Slot} {items : List Value} (hr : slot.repeated = true) :
      Fits types (some slot) (.list items)
  | scalar {slot : Slot} {scalar : Scalar} (hr : slot.repeated = false)
      (hs : scalar.Suits slot.type.kind) :
      Fits types (some slot) (.scalar scalar)
  | message {slot : Slot} {name : String} {inner : MessageType} {members : Values}
      (hr : slot.repeated = false) (ht : slot.type = .message name)
      (hi : types.find? (·.name == name) = some inner)
      (hm : ∀ entry ∈ members, Fits types (inner.slot? entry.1) entry.2) :
      Fits types (some slot) (.message name members)

theorem mem_of_mem_besides {type : MessageType} {slot : Slot} {values : Values} {entry : Nat × Value}
    (h : entry ∈ type.besides slot values) : entry ∈ values := by
  unfold MessageType.besides at h
  split at h
  · exact h
  · exact List.mem_of_mem_filter h

theorem Values.mem_of_mem_set {values : Values} {number : Nat} {value : Value} {entry : Nat × Value}
    (h : entry ∈ values.set number value) : entry ∈ values ∨ entry = (number, value) := by
  rcases List.mem_append.mp h with h | h
  · exact .inl (List.mem_of_mem_filter h)
  · exact .inr (List.mem_singleton.mp h)

def Typed (types : List MessageType) (type : MessageType) (values : Values) : Prop :=
  ∀ entry ∈ values, Value.Fits types (type.slot? entry.1) entry.2

namespace Typed

variable {types : List MessageType} {type inner : MessageType} {values : Values} {number : Nat}
  {slot : Slot} {value : Value} {name : String}

theorem nil : Typed types type [] := by
  simp [Typed]

theorem lookup (h : Typed types type values) (hv : values.lookup number = some value) :
    value.Fits types (type.slot? number) :=
  h _ (Table.mem_of_lookup hv)

theorem set (h : Typed types type values) (hv : value.Fits types (type.slot? number)) :
    Typed types type (values.set number value) := by
  intro entry he
  rcases Values.mem_of_mem_set he with he | rfl
  · exact h entry he
  · exact hv

theorem append_unknown (h : Typed types type values) (hslot : type.slot? number = none)
    (more : List Value) : Typed types type (values.append number more) :=
  h.set (hslot ▸ .unknown)

theorem append (h : Typed types type values) (hslot : type.slot? number = some slot)
    (hr : slot.repeated = true) (more : List Value) :
    Typed types type (values.append number more) :=
  h.set (hslot ▸ .list hr)

theorem besides (h : Typed types type values) (slot : Slot) :
    Typed types type (type.besides slot values) :=
  fun entry he => h entry (mem_of_mem_besides he)

/-- A message that is read again is continued as a message of its type. -/
theorem members (h : Typed types type values) (hslot : type.slot? number = some slot)
    (ht : slot.type = .message name) (hi : types.find? (·.name == name) = some inner) :
    Typed types inner (values.members number) := by
  unfold Values.members
  split
  · rename_i hv
    have hfits := h.lookup hv
    rw [hslot] at hfits
    cases hfits with
    | message _ ht' hi' hm =>
      cases ht.symm.trans ht'
      cases hi.symm.trans hi'
      exact hm
  · exact nil

section

variable (h : Typed types type values) (hslot : type.slot? slot.number = some slot)

include h hslot

theorem put {given : List Value}
    (hgiven : slot.repeated = false → ∀ value ∈ given, value.Fits types (some slot)) :
    Typed types type (values.put slot given) := by
  unfold Values.put
  split
  · rename_i hr
    exact h.append hslot hr given
  · rename_i hr
    cases hlast : given.getLast? with
    | none => exact h
    | some value =>
      have hfits := hgiven (Bool.eq_false_iff.mpr hr) value (List.mem_of_getLast? hlast)
      exact h.set (hslot ▸ hfits)

theorem put_scalars {scalars : List Scalar}
    (hs : slot.repeated = false → ∀ scalar ∈ scalars, scalar.Suits slot.type.kind) :
    Typed types type (values.put slot (scalars.map .scalar)) := by
  refine h.put hslot fun hr value hv => ?_
  obtain ⟨scalar, hm, rfl⟩ := List.mem_map.mp hv
  exact .scalar hr (hs hr scalar hm)

variable (ht : slot.type = .message name) (hi : types.find? (·.name == name) = some inner)

include ht hi

/-- An item of a list begins anew; another message is continued. -/
theorem before : Typed types inner (if slot.repeated then [] else values.members slot.number) := by
  split
  · exact nil
  · exact h.members hslot ht hi

theorem put_message {members : Values} (hm : Typed types inner members) :
    Typed types type (values.put slot [.message name members]) := by
  refine h.put hslot fun hr value hv => ?_
  obtain rfl := List.mem_singleton.mp hv
  exact .message hr ht hi hm

end

end Typed

section

variable {types : List MessageType} {type : MessageType} {slot : Slot}

theorem number_of_slot? {number : Nat} (h : type.slot? number = some slot) :
    slot.number = number := by
  simpa using List.find?_some h

theorem repeated_of_entryType? {entry : MessageType} (h : slot.entryType? types = some entry) :
    slot.repeated = true := by
  unfold Slot.entryType? at h
  split at h
  · have hentry := List.find?_some h
    simp only [Bool.and_eq_true] at hentry
    exact hentry.2
  · cases h

theorem suits_of_readScalars? {wireType : Nat} {bytes rest : Bytes} {scalars : List Scalar}
    (h : slot.readScalars? wireType bytes = some (scalars, rest)) (hr : slot.repeated = false) :
    ∀ scalar ∈ scalars, scalar.Suits slot.type.kind := by
  unfold Slot.readScalars? at h
  dsimp only at h
  split at h
  · obtain ⟨⟨scalar, _⟩, hread, he⟩ := Option.map_eq_some_iff.mp h
    cases he
    simpa using Scalar.suits_of_read? hread
  · rw [hr] at h
    cases h

def KeepsTypes (types : List MessageType) (budget : Nat) : Prop :=
  ∀ {type : MessageType} {group : Option Nat} {values values' : Values} {bytes rest : Bytes},
    readValues types budget type group values bytes = some (values', rest) →
      Typed types type values → Typed types type values'

theorem keepsTypes_of_lower {budget : Nat}
    (hlower : ∀ lower, budget = lower + 1 → KeepsTypes types lower) : KeepsTypes types budget := by
  intro type group values values' bytes rest h ht
  unfold readValues at h
  extract_lets readGroup readMessage readSlot readEntry at h
  -- groups and messages inside are read with the lower budget
  have hgroup {inner : MessageType} {number : Nat} {before members : Values} {bytes rest : Bytes}
      (h : readGroup inner number before bytes = some (members, rest))
      (ht : Typed types inner before) : Typed types inner members := by
    dsimp only [readGroup] at h
    split at h
    · cases h
    · exact hlower _ rfl h ht
  have hmessage {inner : MessageType} {before members : Values} {bytes rest : Bytes}
      (h : readMessage inner before bytes = some (members, rest))
      (ht : Typed types inner before) : Typed types inner members := by
    dsimp only [readMessage] at h
    split at h
    · cases h
    · obtain ⟨⟨content, _⟩, _, h⟩ := Option.bind_eq_some_iff.mp h
      obtain ⟨⟨read, _⟩, hread, h⟩ := Option.bind_eq_some_iff.mp h
      cases h
      exact hlower _ rfl hread ht
  have hslot {slot : Slot} {values values' : Values} {wireType : Nat} {bytes rest : Bytes}
      (hs : type.slot? slot.number = some slot)
      (h : readSlot slot values wireType bytes = some (values', rest))
      (ht : Typed types type values) : Typed types type values' := by
    dsimp only [readSlot] at h
    split at h
    · rename_i name htype
      obtain ⟨inner, hi, h⟩ := Option.bind_eq_some_iff.mp h
      have hbefore := ht.before hs htype hi
      split at h
      · obtain ⟨⟨members, _⟩, hread, h⟩ := Option.bind_eq_some_iff.mp h
        cases h
        exact ht.put_message hs htype hi (hgroup hread hbefore)
      · split at h
        · obtain ⟨⟨members, _⟩, hread, h⟩ := Option.bind_eq_some_iff.mp h
          cases h
          exact ht.put_message hs htype hi (hmessage hread hbefore)
        · cases h
    · obtain ⟨⟨scalars, _⟩, hread, h⟩ := Option.bind_eq_some_iff.mp h
      cases h
      exact ht.put_scalars hs (suits_of_readScalars? hread)
  refine foldFields_invariant ?_ h ht
  intro values number wireType bytes values' rest h ht
  cases hs : type.slot? number with
  | none =>
    rw [hs] at h
    dsimp only at h
    split at h
    · obtain ⟨_, _, he⟩ := Option.map_eq_some_iff.mp h
      cases he
      exact ht
    · obtain ⟨_, _, he⟩ := Option.map_eq_some_iff.mp h
      cases he
      exact ht.append_unknown hs _
  | some slot =>
    rw [hs] at h
    dsimp only at h
    split at h
    · exact hslot (number_of_slot? hs ▸ hs) h (ht.besides slot)
    · -- the entries of a map make a list, of whose items nothing is asked
      rename_i entry hentry
      obtain ⟨⟨content, _⟩, _, h⟩ := Option.bind_eq_some_iff.mp h
      obtain ⟨⟨members, _⟩, _, h⟩ := Option.bind_eq_some_iff.mp h
      cases h
      exact (ht.besides slot).append hs (repeated_of_entryType? hentry) _

/-- What is read onto the values of a message are values of that message. -/
theorem keepsTypes (budget : Nat) : KeepsTypes types budget := by
  induction budget with
  | zero => exact keepsTypes_of_lower fun _ h => absurd h.symm (Nat.succ_ne_zero _)
  | succ budget ih =>
    refine keepsTypes_of_lower fun lower h => ?_
    cases h
    exact ih

end

end ClientGen.Proto
