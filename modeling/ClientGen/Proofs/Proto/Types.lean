import ClientGen.Proofs.Proto.References
import ClientGen.Proofs.Proto.Settings

namespace ClientGen.Proto

theorem slot?_of_mem_fields {type : MessageType} {slot : Slot}
    (hn : (type.fields.map (·.number)).Nodup) (hm : slot ∈ type.fields) :
    type.slot? slot.number = some slot := by
  unfold MessageType.slot?
  rw [List.find?_append, Option.or_eq_some_iff]
  refine .inl ?_
  cases hfound : type.fields.find? (·.number == slot.number) with
  | none => simpa using List.find?_eq_none.mp hfound slot hm
  | some found =>
    have hnumber : found.number = slot.number := by simpa using List.find?_some hfound
    rw [List.inj_on_of_nodup_map hn (List.mem_of_find?_eq_some hfound) hm hnumber]

structure Checked (descriptors : List FileDecl) (linked : Linked) : Prop where
  pool_eq : linked.pool = ⟨descriptors, symbolsOf descriptors⟩
  noClash : noClash linked.pool.symbols = true
  isSound : ∀ symbol ∈ linked.pool.symbols, linked.pool.isSound symbol = true
  extensions : linked.pool.extensions? = some linked.extensions
  types : linked.pool.messageTypes? linked.extensions = some linked.types
  isReadable : ∀ (index : Nat) file, descriptors[index]? = some file →
    linked.isReadable index file = true

theorem checked_of_ofFiles? {descriptors : List FileDecl} {linked : Linked}
    (h : Linked.ofFiles? descriptors = some linked) : Checked descriptors linked := by
  obtain ⟨hpool, hclash⟩ := pool_of_ofFiles? h
  obtain ⟨pool, hp, h⟩ := Option.bind_eq_some_iff.mp h
  obtain ⟨other, ho, h⟩ := Option.bind_eq_some_iff.mp h
  obtain ⟨extensions, he, ho⟩ := Option.bind_eq_some_iff.mp ho
  obtain ⟨types, ht, ho⟩ := Option.bind_eq_some_iff.mp ho
  cases ho
  split at h
  · rename_i hreadable
    cases h
    unfold Pool.ofFiles? at hp
    dsimp only at hp
    split at hp
    · rename_i hvalid
      cases hp
      simp only [Bool.and_eq_true, List.all_eq_true] at hvalid hreadable
      refine ⟨rfl, hclash, hvalid.2, he, ht, fun index file hf => ?_⟩
      obtain ⟨hi, rfl⟩ := List.getElem?_eq_some_iff.mp hf
      exact hreadable.1 _ (List.mem_mapIdx.mpr ⟨index, hi, rfl⟩)
    · cases hp
  · cases h

theorem mem_iff_of_mapM {α β : Type} {f : α → Option β} {as : List α} {bs : List β}
    (h : as.mapM f = some bs) {b : β} : b ∈ bs ↔ ∃ a ∈ as, f a = some b :=
  Except.mem_iff_of_forall₂ (fun _ _ _ hb hb' => Option.some.inj (hb.symm.trans hb'))
    (mapM_eq_some_iff.mp h)

theorem mem_iff_of_mapM_filterMap {α β γ : Type} {f : α → Option β} {g : β → Option γ} {as : List α}
    {cs : List γ} (h : (as.filterMap f).mapM g = some cs) {c : γ} :
    c ∈ cs ↔ ∃ a ∈ as, ∃ b, f a = some b ∧ g b = some c := by
  rw [mem_iff_of_mapM h]
  simp only [List.mem_filterMap]
  constructor
  · rintro ⟨b, ⟨a, ha, hb⟩, hc⟩
    exact ⟨a, ha, b, hb, hc⟩
  · rintro ⟨a, ha, b, hb, hc⟩
    exact ⟨b, ⟨a, ha, hb⟩, hc⟩

section

variable {pool : Pool} {visible : List Nat} {fullName : String} {tracksPresence : Bool}
  {decl : FieldDecl} {slot : Slot} {extension : Extension}

structure SlotOf (pool : Pool) (visible : List Nat) (fullName : String) (decl : FieldDecl)
    (slot : Slot) : Prop where
  number_eq : slot.number = decl.number.toInt.toNat
  type : pool.fieldType? visible fullName decl = some slot.type

theorem slotOf_of_slot? (h : pool.slot? visible fullName tracksPresence decl = some slot) :
    SlotOf pool visible fullName decl slot := by
  obtain ⟨type, ht, h⟩ := Option.bind_eq_some_iff.mp h
  dsimp only at h
  split at h
  · cases h
    exact ⟨rfl, ht⟩
  · obtain ⟨_, _, h⟩ := Option.bind_eq_some_iff.mp h
    cases h
    exact ⟨rfl, ht⟩

theorem slotOf_of_extension? (h : pool.extension? visible fullName decl = some extension) :
    extension.name = fullName ∧ SlotOf pool visible fullName decl extension.slot ∧
      ∃ symbol ∈ pool.symbols,
        symbol.name = extension.extendee ∧ symbol.meaning.isMessage = true := by
  obtain ⟨extended, he, h⟩ := Option.bind_eq_some_iff.mp h
  obtain ⟨slot, hs, h⟩ := Option.bind_eq_some_iff.mp h
  obtain ⟨hsymbol, hmessage⟩ := mem_symbols_of_resolve? he
  have hslot := slotOf_of_slot? hs
  split at h
  · split at h
    · cases h
      exact ⟨rfl, ⟨hslot.number_eq, hslot.type⟩, extended, hsymbol, rfl, hmessage⟩
    · cases h
  · cases h

end

structure TypeOf (linked : Linked) (symbol : Symbol) (decl : MessageDecl) (type : MessageType) :
    Prop where
  name_eq : type.name = symbol.name
  fields : List.Forall₂
    (fun field slot => SlotOf linked.pool (linked.pool.visible symbol.file)
      (qualified symbol.name field.name) field slot)
    decl.fields type.fields
  extensions_eq :
    type.extensions = (linked.extensions.filter (·.extendee == symbol.name)).map (·.slot)

theorem typeOf_of_messageType? {linked : Linked} {symbol : Symbol} {decl : MessageDecl}
    {type : MessageType} (h : linked.pool.messageType? linked.extensions symbol decl = some type) :
    TypeOf linked symbol decl type := by
  obtain ⟨fields, hf, h⟩ := Option.bind_eq_some_iff.mp h
  cases h
  exact ⟨rfl, (mapM_eq_some_iff.mp hf).imp fun _ _ => slotOf_of_slot?, rfl⟩

def Linked.Declares (linked : Linked) (name : String) (extension : Extension) : Prop :=
  ∃ (index : Nat) (file : FileDecl) (decl : FieldDecl), linked.pool.files[index]? = some file ∧
    (name, .extension decl) ∈ file.names ∧
    linked.pool.extension? (linked.pool.visible index) name decl = some extension

/-- Numbers that fields can have are told apart by their values. -/
theorem toNat_injOn_validNumber {a b : Int32} (ha : validNumber a = true) (hb : validNumber b = true)
    (h : a.toInt.toNat = b.toInt.toNat) : a = b := by
  simp only [validNumber, Bool.and_eq_true, decide_eq_true_eq] at ha hb
  have hint : a.toInt = b.toInt := by omega
  exact Int32.toInt_inj.mp hint

namespace Checked

variable {descriptors : List FileDecl} {linked : Linked} {type : MessageType} {slot : Slot}
  {symbol other : Symbol} {name : String} {extension : Extension}

variable (h : Checked descriptors linked)

include h

theorem eq_of_name_eq (hs : symbol ∈ linked.pool.symbols) (ho : other ∈ linked.pool.symbols)
    (hp : symbol.meaning.isPackage = false) (hp' : other.meaning.isPackage = false)
    (hname : symbol.name = other.name) : symbol = other := by
  refine List.inj_on_of_nodup_map (nodup_of_noClash h.noClash) ?_ ?_ hname
  · exact List.mem_filter.mpr ⟨hs, by simp [hp]⟩
  · exact List.mem_filter.mpr ⟨ho, by simp [hp']⟩

theorem mem_extensions_iff : extension ∈ linked.extensions ↔
    ∃ symbol ∈ linked.pool.symbols, ∃ decl, symbol.meaning = .extension decl ∧
      linked.pool.extension? (linked.pool.visible symbol.file) symbol.name decl = some extension := by
  rw [mem_iff_of_mapM_filterMap h.extensions]
  refine exists_congr fun symbol => and_congr_right fun _ => ?_
  cases symbol.meaning <;> simp

theorem mem_types_iff : type ∈ linked.types ↔
    ∃ symbol ∈ linked.pool.symbols, ∃ decl, symbol.meaning = .message decl ∧
      linked.pool.messageType? linked.extensions symbol decl = some type := by
  rw [mem_iff_of_mapM_filterMap h.types]
  refine exists_congr fun symbol => and_congr_right fun _ => ?_
  cases symbol.meaning <;> simp

/-- An extension is found by a name just if a file declares it so. -/
theorem extension?_eq_some_iff : linked.extension? name = some extension ↔
    linked.Declares name extension := by
  constructor
  · intro he
    have hname : extension.name = name := by simpa using List.find?_some he
    obtain ⟨symbol, hs, decl, hmeaning, hd⟩ := h.mem_extensions_iff.mp (List.mem_of_find?_eq_some he)
    obtain rfl : symbol.name = name := (slotOf_of_extension? hd).1.symm.trans hname
    rw [h.pool_eq] at hs
    obtain ⟨file, hf, hm⟩ := mem_symbolsOf.mp hs
    rw [hmeaning] at hm
    refine ⟨symbol.file, file, decl, ?_, hm, hd⟩
    rw [h.pool_eq]
    exact hf
  · rintro ⟨index, file, decl, hf, hm, he⟩
    have hname := (slotOf_of_extension? he).1
    have hs : ⟨name, .extension decl, index⟩ ∈ linked.pool.symbols := by
      rw [h.pool_eq] at hf ⊢
      exact mem_symbolsOf.mpr ⟨file, hf, hm⟩
    have hmem : extension ∈ linked.extensions := h.mem_extensions_iff.mpr ⟨_, hs, decl, rfl, he⟩
    cases hfound : linked.extension? name with
    | none => simpa [hname] using List.find?_eq_none.mp hfound extension hmem
    | some found =>
      have hfname : found.name = name := by simpa using List.find?_some hfound
      obtain ⟨symbol, hs', decl', hmeaning, he'⟩ :=
        h.mem_extensions_iff.mp (List.mem_of_find?_eq_some hfound)
      have hsymbol : symbol.name = name := (slotOf_of_extension? he').1.symm.trans hfname
      obtain rfl := h.eq_of_name_eq hs' hs (by rw [hmeaning]; rfl) rfl hsymbol
      cases hmeaning
      exact he'.symm.trans he

theorem exists_type_of_symbol (hs : symbol ∈ linked.pool.symbols)
    (hm : symbol.meaning.isMessage = true) :
    ∃ type, linked.types.find? (·.name == symbol.name) = some type := by
  cases hmeaning : symbol.meaning with
  | message decl =>
    obtain ⟨type, ht, htype⟩ := Except.exists_mem_of_forall₂ (mapM_eq_some_iff.mp h.types).flip
      (List.mem_filterMap.mpr ⟨symbol, hs, by rw [hmeaning]⟩)
    have hname := (typeOf_of_messageType? htype).name_eq
    refine Option.isSome_iff_exists.mp (List.find?_isSome.mpr ⟨type, ht, ?_⟩)
    simp [hname]
  | _ =>
    rw [hmeaning] at hm
    cases hm

/-- The message type that a slot names is known. -/
theorem exists_type_of_slotOf {visible : List Nat} {fullName : String} {decl : FieldDecl}
    (hs : SlotOf linked.pool visible fullName decl slot) (ht : slot.type = .message name) :
    ∃ type, linked.types.find? (·.name == name) = some type := by
  obtain ⟨_, _, _, he⟩ | ⟨_, symbol, _, hr, ⟨hm, he⟩ | ⟨_, _, he⟩⟩ := fieldType?_cases hs.type
  · cases ht.symm.trans he
  · cases ht.symm.trans he
    exact h.exists_type_of_symbol (mem_symbols_of_resolve? hr).1 hm
  · cases ht.symm.trans he

theorem nodup_numbers (ht : type ∈ linked.types) : (type.fields.map (·.number)).Nodup := by
  obtain ⟨symbol, hs, decl, hmeaning, htype⟩ := h.mem_types_iff.mp ht
  have hvalid : ∃ dialect, decl.isValid dialect = true := by
    have hsound := h.isSound symbol hs
    unfold Pool.isSound at hsound
    split at hsound
    · cases hsound
    · rw [hmeaning] at hsound
      exact ⟨_, hsound⟩
  obtain ⟨dialect, hvalid⟩ := hvalid
  simp only [MessageDecl.isValid, MessageDecl.admits, Bool.and_eq_true, List.all_eq_true,
    decide_eq_true_eq] at hvalid
  obtain ⟨⟨⟨⟨hadmits, hnodup⟩, _⟩, _⟩, _⟩ := hvalid
  have hnumbers : type.fields.map (·.number) = decl.fields.map (·.number.toInt.toNat) :=
    Except.map_eq_of_forall₂ ((typeOf_of_messageType? htype).fields.imp fun _ _ hs => hs.number_eq)
  rw [hnumbers]
  refine hnodup.of_map.map_on fun a ha b hb he => List.inj_on_of_nodup_map hnodup ha hb ?_
  exact toNat_injOn_validNumber (hadmits a ha).1.1 (hadmits b hb).1.1 he

/-- A field that is found by its name is found by its number. -/
theorem slot?_of_field? (ht : type ∈ linked.types) (hf : type.field? name = some slot) :
    type.slot? slot.number = some slot :=
  slot?_of_mem_fields (h.nodup_numbers ht) (List.mem_of_find?_eq_some hf)

end Checked

end ClientGen.Proto
