import ClientGen.Proofs.Proto.Typing

namespace ClientGen.Proto

open Schema (FieldKind)

theorem Scalar.suits_of_ofInt? {kind : FieldKind} {n : Int} {scalar : Scalar}
    (h : ofInt? kind n = some scalar) : scalar.Suits kind := by
  unfold ofInt? at h
  cases kind <;> simp only [Option.ite_none_right_eq_some, Option.some.injEq, reduceCtorEq] at h
  all_goals
    obtain ⟨_, rfl⟩ := h
    rfl

theorem Scalar.suits_of_flag {text : String} {scalar : Scalar}
    (h : (FieldType.scalar .bool).default? text = some scalar) : scalar.Suits .bool := by
  unfold FieldType.default? at h
  dsimp only at h
  split at h
  · cases h
    rfl
  · split at h
    · cases h
      rfl
    · cases h

namespace Setting

variable {setting : Setting} {types : List MessageType} {slot : Slot}

/-- A literal gives a scalar of the type that it is asked for. -/
theorem suits_of_scalar? {type : FieldType} {scalar : Scalar}
    (h : setting.scalar? type = some scalar) : scalar.Suits type.kind := by
  cases type with
  | message name => cases h
  | enum name values =>
    obtain ⟨_, _, h⟩ := Option.bind_eq_some_iff.mp h
    obtain ⟨_, _, rfl⟩ := Option.map_eq_some_iff.mp h
    rfl
  | scalar kind =>
    unfold scalar? at h
    cases kind
    case double | float =>
      obtain ⟨_, _, rfl⟩ := Option.map_eq_some_iff.mp h
      rfl
    case bool =>
      obtain ⟨_, _, h⟩ := Option.bind_eq_some_iff.mp h
      exact Scalar.suits_of_flag h
    case string =>
      obtain ⟨_, _, rfl⟩ := Option.map_eq_some_iff.mp h
      rfl
    case bytes =>
      obtain ⟨_, _, rfl⟩ := Option.map_eq_some_iff.mp h
      exact ⟨rfl, by decide⟩
    all_goals
      obtain ⟨_, _, h⟩ := Option.bind_eq_some_iff.mp h
      exact Scalar.suits_of_ofInt? h

theorem fits_of_value? {value : Value} (hr : slot.repeated = false)
    (hknown : ∀ name, slot.type = .message name → ∃ inner, types.find? (·.name == name) = some inner)
    (h : setting.value? slot.type = some value) : value.Fits types (some slot) := by
  unfold value? at h
  split at h
  · rename_i name ht
    split at h
    · cases h
      obtain ⟨inner, hi⟩ := hknown name ht
      exact .message hr ht hi (by simp)
    · cases h
  · obtain ⟨scalar, hs, rfl⟩ := Option.map_eq_some_iff.mp h
    exact .scalar hr (suits_of_scalar? hs)

end Setting

def Value.Known (types : List MessageType) (value : Value) : Prop :=
  ∀ name members, value = .message name members →
    ∃ inner, types.find? (·.name == name) = some inner

theorem Value.Fits.known {types : List MessageType} {slot : Option Slot} {value : Value}
    (h : value.Fits types slot) : value.Known types := by
  rintro name members rfl
  cases h with
  | message _ _ hi => exact ⟨_, hi⟩

/-- Types among which the names in settings lead from one to another, by fields and extensions that
are found by their numbers. -/
structure Linked.Guides (linked : Linked) (place : Place) (types : List MessageType)
    (known : MessageType → Prop) : Prop where
  slot : ∀ {type part slot}, known type → linked.slot? place type part = some slot →
    type.slot? slot.number = some slot
  inner : ∀ {type part slot name}, known type → linked.slot? place type part = some slot →
    slot.repeated = false → slot.type = .message name →
      ∃ inner, types.find? (·.name == name) = some inner ∧ known inner

section

variable {linked : Linked} {place : Place} {types : List MessageType} {known : MessageType → Prop}
  {type : MessageType} {values values' : Values}

inductive Assigned (linked : Linked) (types : List MessageType) (place : Place) (setting : Setting)
    (parts : List NamePart) (slot : Slot) (values : Values) : Values → Prop
  | item {value : Value} (hr : slot.repeated = true) :
      Assigned linked types place setting parts slot values (values.append slot.number [value])
  | value {value : Value} (hr : slot.repeated = false) (hv : setting.value? slot.type = some value) :
      Assigned linked types place setting parts slot values (values.set slot.number value)
  | inner {name : String} {type : MessageType} {members : Values} {path : Path}
      (hr : slot.repeated = false) (ht : slot.type = .message name)
      (hi : types.find? (·.name == name) = some type)
      (hm : linked.assign types place setting parts type (values.members slot.number) =
        some (members, path)) :
      Assigned linked types place setting parts slot values
        (values.set slot.number (.message name members))

theorem assigned_of_assign {setting : Setting} {part : NamePart} {parts : List NamePart} {path : Path}
    (h : linked.assign types place setting (part :: parts) type values = some (values', path)) :
    ∃ slot, linked.slot? place type part = some slot ∧
      Assigned linked types place setting parts slot (type.besides slot values) values' := by
  obtain ⟨slot, hs, h⟩ := Option.bind_eq_some_iff.mp h
  refine ⟨slot, hs, ?_⟩
  dsimp only at h
  split at h
  · obtain ⟨value, hv, h⟩ := Option.bind_eq_some_iff.mp h
    split at h
    · rename_i hr
      cases h
      exact .item hr
    · rename_i hr
      split at h
      · cases h
      · cases h
        exact .value (Bool.eq_false_iff.mpr hr) hv
  · split at h
    · rename_i name ht hr
      obtain ⟨inner, hi, h⟩ := Option.bind_eq_some_iff.mp h
      obtain ⟨⟨members, _⟩, hm, h⟩ := Option.bind_eq_some_iff.mp h
      cases h
      exact .inner hr ht hi hm
    · cases h

/-- What every setting keeps, all settings keep. -/
theorem assignAll_invariant {P : Values → Prop}
    (hstep : ∀ {setting : Setting} {values values' path},
      linked.assign types place setting setting.parts type values = some (values', path) →
        P values → P values')
    {settings : List Setting} {paths : List Path}
    (h : linked.assignAll types place type settings values = some (values', paths))
    (hp : P values) : P values' := by
  induction settings generalizing values paths with
  | nil =>
    cases h
    exact hp
  | cons setting settings ih =>
    obtain ⟨⟨assigned, _⟩, ha, h⟩ := Option.bind_eq_some_iff.mp h
    obtain ⟨⟨_, _⟩, hrest, h⟩ := Option.bind_eq_some_iff.mp h
    cases h
    exact ih hrest (hstep ha hp)

/-- Options that are set in words are of the types of their message. -/
theorem typed_assign (hg : linked.Guides place types known) {setting : Setting}
    {parts : List NamePart} {path : Path} (hk : known type)
    (h : linked.assign types place setting parts type values = some (values', path))
    (ht : Typed types type values) : Typed types type values' := by
  induction parts generalizing type values values' path with
  | nil =>
    cases h
    exact ht
  | cons part parts ih =>
    obtain ⟨slot, hs, ha⟩ := assigned_of_assign h
    have hslot := hg.slot hk hs
    have hbesides := ht.besides slot
    cases ha with
    | item hr => exact hbesides.append hslot hr _
    | value hr hv =>
      have hknown name (hname : slot.type = .message name) :=
        (hg.inner hk hs hr hname).imp fun _ hi => hi.1
      exact hbesides.set (hslot ▸ Setting.fits_of_value? hr hknown hv)
    | inner hr htype hi hm =>
      obtain ⟨inner, hi', hk'⟩ := hg.inner hk hs hr htype
      cases hi.symm.trans hi'
      have hmembers := ih hk' hm (hbesides.members hslot htype hi)
      exact hbesides.set (hslot ▸ .message hr htype hi hmembers)

theorem known_set {number : Nat} {value : Value} (h : ∀ entry ∈ values, entry.2.Known types)
    (hv : value.Known types) : ∀ entry ∈ values.set number value, entry.2.Known types := by
  intro entry he
  rcases Values.mem_of_mem_set he with he | rfl
  · exact h entry he
  · exact hv

/-- Extensions that share a number may leave a message with fields of another, but not without a
type. -/
theorem known_assign {setting : Setting} {parts : List NamePart} {path : Path}
    (hinner : ∀ {part slot name}, linked.slot? place type part = some slot →
      slot.type = .message name → ∃ inner, types.find? (·.name == name) = some inner)
    (h : linked.assign types place setting parts type values = some (values', path))
    (hv : ∀ entry ∈ values, entry.2.Known types) : ∀ entry ∈ values', entry.2.Known types := by
  cases parts with
  | nil =>
    cases h
    exact hv
  | cons part parts =>
    obtain ⟨slot, hs, ha⟩ := assigned_of_assign h
    have hbesides : ∀ entry ∈ type.besides slot values, entry.2.Known types :=
      fun entry he => hv entry (mem_of_mem_besides he)
    cases ha with
    | item => exact known_set hbesides (by rintro _ _ ⟨⟩)
    | value hr hvalue =>
      exact known_set hbesides (Setting.fits_of_value? hr (fun _ => hinner hs) hvalue).known
    | inner _ _ hi =>
      refine known_set hbesides ?_
      rintro _ _ ⟨⟩
      exact ⟨_, hi⟩

end

end ClientGen.Proto
