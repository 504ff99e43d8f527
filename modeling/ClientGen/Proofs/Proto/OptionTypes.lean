import ClientGen.Proofs.Proto.Types

namespace ClientGen.Proto

namespace Standard

variable (form : Form) (name : String)

def record : MessageType where
  name
  fields := options form ++ [settings]

theorem find?_types : (types form name).find? (·.name == name) = some (record form name) := by
  simp [types, record]

theorem nodup_numbers : ((record form name).fields.map (·.number)).Nodup := by
  have hnumbers : ((options form ++ [settings]).map (·.number)).Nodup := by
    cases form <;> decide
  exact hnumbers

/-- Of the fields of an options record, only the list of settings holds messages. -/
theorem repeated_of_message {slot : Slot} {inner : String} (hs : slot ∈ (record form name).fields)
    (ht : slot.type = .message inner) : slot.repeated = true := by
  have hall : (options form ++ [settings]).all fun slot => !slot.type.isMessage || slot.repeated := by
    cases form <;> rfl
  have hslot := List.all_eq_true.mp hall slot hs
  simpa [ht, FieldType.isMessage, FieldType.kind] using hslot

end Standard

/-- Whether the number of every extension of a message leads back to it. -/
def Linked.SeparatesExtensions (linked : Linked) : Prop :=
  ∀ type ∈ linked.types, ∀ slot ∈ type.extensions, type.slot? slot.number = some slot

theorem slot?_cases {linked : Linked} {place : Place} {type : MessageType} {part : NamePart}
    {slot : Slot} (h : linked.slot? place type part = some slot) :
    type.field? part.name = some slot ∨
      ∃ extension ∈ linked.extensions, extension.extendee = type.name ∧ extension.slot = slot := by
  unfold Linked.slot? at h
  split at h
  · obtain ⟨symbol, _, h⟩ := Option.bind_eq_some_iff.mp h
    obtain ⟨extension, he, h⟩ := Option.bind_eq_some_iff.mp h
    split at h
    · rename_i hname
      cases h
      exact .inr ⟨extension, List.mem_of_find?_eq_some he, hname, rfl⟩
    · cases h
  · exact .inl h

namespace Checked

variable {descriptors : List FileDecl} {linked : Linked} {place : Place} {form : Form} {name : String}

variable (h : Checked descriptors linked)

include h

theorem exists_type_of_extension {extension : Extension} {inner : String}
    (he : extension ∈ linked.extensions) (ht : extension.slot.type = .message inner) :
    ∃ type, linked.types.find? (·.name == inner) = some type := by
  obtain ⟨symbol, _, decl, _, he⟩ := h.mem_extensions_iff.mp he
  exact h.exists_type_of_slotOf (slotOf_of_extension? he).2.1 ht

theorem exists_type_of_field {type : MessageType} {slot : Slot} {inner : String}
    (htype : type ∈ linked.types) (hs : slot ∈ type.fields) (ht : slot.type = .message inner) :
    ∃ type, linked.types.find? (·.name == inner) = some type := by
  obtain ⟨symbol, _, decl, _, htype⟩ := h.mem_types_iff.mp htype
  obtain ⟨field, _, hslot⟩ := Except.exists_mem_of_forall₂ (typeOf_of_messageType? htype).fields hs
  exact h.exists_type_of_slotOf hslot ht

theorem exists_type_of_slot? {type : MessageType} {part : NamePart} {slot : Slot} {inner : String}
    (ht : type ∈ linked.types) (hs : linked.slot? place type part = some slot)
    (hm : slot.type = .message inner) : ∃ type, linked.types.find? (·.name == inner) = some type := by
  obtain hf | ⟨extension, he, _, rfl⟩ := slot?_cases hs
  · exact h.exists_type_of_field ht (List.mem_of_find?_eq_some hf) hm
  · exact h.exists_type_of_extension he hm

/-- Settings stay among the types of the files, where no extensions are confused. -/
theorem guides (place : Place) (hsep : linked.SeparatesExtensions) :
    linked.Guides place linked.types (· ∈ linked.types) where
  slot {type part slot} ht hs := by
    obtain hf | ⟨extension, he, hname, rfl⟩ := slot?_cases hs
    · exact h.slot?_of_field? ht hf
    · obtain ⟨symbol, _, decl, _, htype⟩ := h.mem_types_iff.mp ht
      have hof := typeOf_of_messageType? htype
      refine hsep type ht _ ?_
      rw [hof.extensions_eq]
      exact List.mem_map_of_mem (List.mem_filter.mpr ⟨he, by simp [hname, hof.name_eq]⟩)
  inner ht hs _ hm := by
    obtain ⟨type, hi⟩ := h.exists_type_of_slot? ht hs hm
    exact ⟨type, hi, List.mem_of_find?_eq_some hi⟩

/-- Where an options record is not declared, nothing extends it. -/
theorem mem_fields_of_slot? {part : NamePart} {slot : Slot}
    (hname : linked.types.any (·.name == name) = false)
    (hs : linked.slot? place (Standard.record form name) part = some slot) :
    slot ∈ (Standard.record form name).fields := by
  obtain hf | ⟨extension, he, hextendee, _⟩ := slot?_cases hs
  · exact List.mem_of_find?_eq_some hf
  · obtain ⟨_, _, decl, _, he⟩ := h.mem_extensions_iff.mp he
    obtain ⟨_, _, symbol, hsymbol, hsname, hmessage⟩ := slotOf_of_extension? he
    obtain ⟨type, ht⟩ := h.exists_type_of_symbol hsymbol hmessage
    have htype : type.name = name := by
      simpa [hsname, hextendee, Standard.record] using List.find?_some ht
    have hother := List.any_eq_false.mp hname type (List.mem_of_find?_eq_some ht)
    exact absurd (by simpa using htype) hother

theorem guides_standard (place : Place) (form : Form)
    (hname : linked.types.any (·.name == name) = false) :
    linked.Guides place (Standard.types form name) (· = Standard.record form name) where
  slot ht hs := by
    subst ht
    exact slot?_of_mem_fields (Standard.nodup_numbers form name) (h.mem_fields_of_slot? hname hs)
  inner ht hs hr hm := by
    subst ht
    rw [Standard.repeated_of_message form name (h.mem_fields_of_slot? hname hs) hm] at hr
    cases hr

end Checked

/-- How an options record is put together: it is read, then settings are carried out, and then what
is not present is left out. -/
theorem exists_assigned_of_settle? {linked : Linked} {place : Place} {form : Form} {name : String}
    {decl : OptionsDecl} {settled : Settled} (hname : form.declaredName? = some name)
    (hs : linked.settle? place form decl = some settled) :
    ∃ type read assigned, (linked.optionTypes form name).find? (·.name == name) = some type ∧
      Typed (linked.optionTypes form name) type read ∧
      linked.assignAll (linked.optionTypes form name) place type decl.settings read =
        some (assigned, settled.paths) ∧
      ∀ entry ∈ settled.values, entry ∈ assigned := by
  unfold Linked.settle? at hs
  rw [hname, Option.bind_eq_bind, Option.bind_some] at hs
  obtain ⟨type, ht, hs⟩ := Option.bind_eq_some_iff.mp hs
  obtain ⟨⟨read, _⟩, hread, hs⟩ := Option.bind_eq_some_iff.mp hs
  obtain ⟨⟨assigned, paths⟩, ha, hs⟩ := Option.bind_eq_some_iff.mp hs
  cases hs
  exact ⟨type, read, assigned, ht, keepsTypes _ hread .nil, ha,
    fun entry he => List.mem_of_mem_filter he⟩

namespace Checked

variable {descriptors : List FileDecl} {linked : Linked} {place : Place} {form : Form} {name : String}
  {decl : OptionsDecl} {settled : Settled} {number : Nat} {inner : String} {members : Values}

variable (h : Checked descriptors linked) (hname : form.declaredName? = some name)
  (hs : linked.settle? place form decl = some settled)
  (hv : settled.values.lookup number = some (.message inner members))

include h hname hs hv

/-- A record that the files do not declare holds no message beside those in lists. -/
theorem any_types_of_message : linked.types.any (·.name == name) = true := by
  obtain ⟨record, read, assigned, hrecord, hread, ha, hmem⟩ := exists_assigned_of_settle? hname hs
  by_contra hany
  rw [Linked.optionTypes, if_neg hany] at hrecord hread ha
  cases (Standard.find?_types form name).symm.trans hrecord
  have hg := h.guides_standard place form (Bool.eq_false_iff.mpr hany)
  have htyped := assignAll_invariant (fun ha => typed_assign hg rfl ha) ha hread
  have hfits := htyped _ (hmem _ (Table.mem_of_lookup hv))
  cases hslot : (Standard.record form name).slot? number with
  | none =>
    rw [hslot] at hfits
    cases hfits
  | some slot =>
    rw [hslot] at hfits
    cases hfits with
    | message hr ht =>
      have hfield : slot ∈ (Standard.record form name).fields := by
        simpa [MessageType.slot?, Standard.record] using List.mem_of_find?_eq_some hslot
      rw [Standard.repeated_of_message form name hfield ht] at hr
      cases hr

/-- A message among the options of a record has a type of the files. -/
theorem exists_type_of_option : ∃ type, linked.types.find? (·.name == inner) = some type := by
  have hany := h.any_types_of_message hname hs hv
  obtain ⟨record, read, assigned, hrecord, hread, ha, hmem⟩ := exists_assigned_of_settle? hname hs
  rw [Linked.optionTypes, if_pos hany] at hrecord hread ha
  have hinner {part : NamePart} {slot : Slot} {name : String}
      (hs : linked.slot? place record part = some slot) (hm : slot.type = .message name) :=
    h.exists_type_of_slot? (List.mem_of_find?_eq_some hrecord) hs hm
  have hknown := assignAll_invariant (fun ha => known_assign hinner ha) ha
    fun entry he => (hread entry he).known
  exact hknown _ (hmem _ (Table.mem_of_lookup hv)) inner members rfl

/-- A message among the options of a record has values of its type, unless extensions are confused
when options are set in words. -/
theorem typed_of_option (hsep : decl.settings = [] ∨ linked.SeparatesExtensions) {type : MessageType}
    (ht : linked.types.find? (·.name == inner) = some type) : Typed linked.types type members := by
  have hany := h.any_types_of_message hname hs hv
  obtain ⟨record, read, assigned, hrecord, hread, ha, hmem⟩ := exists_assigned_of_settle? hname hs
  rw [Linked.optionTypes, if_pos hany] at hrecord hread ha
  have htyped : Typed linked.types record assigned := by
    obtain hnone | hsep := hsep
    · rw [hnone] at ha
      obtain rfl : read = assigned := congrArg Prod.fst (Option.some.inj ha)
      exact hread
    · have hg := h.guides place hsep
      have hrecord := List.mem_of_find?_eq_some hrecord
      exact assignAll_invariant (fun ha => typed_assign hg hrecord ha) ha hread
  have hfits := htyped _ (hmem _ (Table.mem_of_lookup hv))
  generalize record.slot? number = slot at hfits
  cases hfits with
  | message _ _ hi hm =>
    cases ht.symm.trans hi
    exact hm

end Checked

end ClientGen.Proto
