import ClientGen.Proofs.Client.FileItems
import ClientGen.Proofs.Client.Pages
import Mathlib.Data.List.Nodup
import Mathlib.Data.List.Pairwise

namespace ClientGen

open Schema

namespace Item

def package? : Item → Option String
  | .package name => some name
  | .global _ | .method _ _ => none

def global? : Item → Option String
  | .global name => some name
  | .package _ | .method _ _ => none

def method? : Item → Option (String × String)
  | .method receiver name => some (receiver, name)
  | .package _ | .global _ => none

end Item

namespace Client

variable {client other : Client} {s t : String} {f g : String × String} {scopes : Bool}

/-- What stands before and after the stem in the names that a client declares. -/
def forms (scopes : Bool) : List (String × String) :=
  [("", "CallOptions"), ("default", "ClientOptions")] ++
    (if scopes then [("Default", "AuthScopes")] else []) ++
    [("default", "CallOptions"), ("", "Client"), ("New", "Client")]

def spell (stem : String) (form : String × String) : String :=
  form.1 ++ stem ++ form.2

/-- The names that a client declares at the top level of its package, beside its iterators. -/
def globals (client : Client) : List String :=
  (forms client.hasScopes).map (spell client.stem)

def members (service : Service) : List String :=
  ["Connection", "Close", "setGoogleClientInfo"] ++ service.methods.map (·.name)

/-- Whether a stem is another one after a word that also stands before stems. -/
def Extends (s t : String) : Prop :=
  s = "New" ++ t ∨ s = "default" ++ t

instance : Decidable (Extends s t) := inferInstanceAs (Decidable (_ ∨ _))

theorem not_extends_self (s : String) : ¬ Extends s s := by
  have hne {a : String} (ha : a.length ≠ 0) : s ≠ a ++ s := by
    intro h
    have hlength := congrArg String.length h
    rw [String.length_append] at hlength
    omega
  rintro (h | h)
  · exact hne (by decide) h
  · exact hne (by decide) h

theorem extends_of_mem {word : String} (hword : word ∈ ["New", "default"]) (h : s = word ++ t) :
    Extends s t := by
  simp only [List.mem_cons, List.not_mem_nil, or_false] at hword
  obtain rfl | rfl := hword
  · exact .inl h
  · exact .inr h

theorem suffix_or_suffix {a b c d : String} (h : a ++ b = c ++ d) :
    b.toList <:+ d.toList ∨ d.toList <:+ b.toList := by
  refine List.suffix_or_suffix_of_suffix ⟨a.toList, ?_⟩ ⟨c.toList, rfl⟩
  rw [← String.toList_append, h, String.toList_append]

theorem mem_forms (h : f ∈ forms scopes) : f ∈ forms true := by
  cases scopes with
  | true => exact h
  | false => exact (by decide : forms false ⊆ forms true) h

theorem nodup_forms (scopes : Bool) : (forms scopes).Nodup := by
  cases scopes <;> decide

/-- Names of clients are the same only if the stems are, or if one stem begins as a name does. -/
theorem eq_or_extends_of_spell_eq (hf : f ∈ forms true) (hg : g ∈ forms true)
    (h : spell s f = spell t g) : f = g ∧ s = t ∨ Extends s t ∨ Extends t s := by
  -- no form ends as another part of a form does, so the ends of the names are cut off first
  have hback : f.2 = g.2 := by
    have hsuffix : ∀ f ∈ forms true, ∀ g ∈ forms true, f.2.toList <:+ g.2.toList → f.2 = g.2 := by
      decide
    obtain hs | hs := suffix_or_suffix h
    · exact hsuffix f hf g hg hs
    · exact (hsuffix g hg f hf hs).symm
  have hfront : f.1 ++ s = g.1 ++ t := by
    rw [spell, spell, hback] at h
    exact (String.append_left_inj _).mp h
  have hcases : ∀ f ∈ forms true, ∀ g ∈ forms true, f.2 = g.2 →
      f = g ∨ f.1 = "" ∧ g.1 ∈ ["New", "default"] ∨ g.1 = "" ∧ f.1 ∈ ["New", "default"] := by
    decide
  obtain rfl | ⟨hempty, hword⟩ | ⟨hempty, hword⟩ := hcases f hf g hg hback
  · exact .inl ⟨rfl, (String.append_right_inj _).mp hfront⟩
  · rw [hempty, String.empty_append] at hfront
    exact .inr (.inl (extends_of_mem hword hfront))
  · rw [hempty, String.empty_append, eq_comm] at hfront
    exact .inr (.inr (extends_of_mem hword hfront))

theorem nodup_globals (client : Client) : client.globals.Nodup := by
  refine (nodup_forms _).map_on fun f hf g hg h => ?_
  obtain ⟨heq, _⟩ | hextends | hextends := eq_or_extends_of_spell_eq (mem_forms hf) (mem_forms hg) h
  · exact heq
  · exact absurd hextends (not_extends_self _)
  · exact absurd hextends (not_extends_self _)

theorem mem_globals (hf : f ∈ forms false) : spell client.stem f ∈ client.globals := by
  refine List.mem_map_of_mem ?_
  cases client.hasScopes with
  | true => exact mem_forms hf
  | false => exact hf

theorem not_disjoint_globals (h : Extends client.stem other.stem) :
    ¬ client.globals.Disjoint other.globals := by
  intro hdisjoint
  have hshared {f g : String × String} (hf : f ∈ forms false) (hg : g ∈ forms false)
      (hfg : spell client.stem f = spell other.stem g) : False :=
    hdisjoint (mem_globals hf) (hfg ▸ mem_globals hg)
  obtain h | h := h
  · refine hshared (f := ("", "Client")) (g := ("New", "Client")) (by decide) (by decide) ?_
    rw [spell, spell, h, String.empty_append]
  · refine hshared (f := ("", "CallOptions")) (g := ("default", "CallOptions")) (by decide)
      (by decide) ?_
    rw [spell, spell, h, String.empty_append]

theorem disjoint_globals_iff : client.globals.Disjoint other.globals ↔
    client.stem ≠ other.stem ∧ ¬ Extends client.stem other.stem ∧
      ¬ Extends other.stem client.stem := by
  constructor
  · intro h
    refine ⟨fun hstem => ?_, fun he => not_disjoint_globals he h,
      fun he => not_disjoint_globals he fun _ ho hc => h hc ho⟩
    have hform : ("", "Client") ∈ forms false := by decide
    exact h (mem_globals hform) (hstem ▸ mem_globals hform)
  · rintro ⟨hstem, hextends, hextends'⟩ name hc ho
    obtain ⟨f, hf, rfl⟩ := List.mem_map.mp hc
    obtain ⟨g, hg, h⟩ := List.mem_map.mp ho
    obtain ⟨_, heq⟩ | he | he := eq_or_extends_of_spell_eq (mem_forms hf) (mem_forms hg) h.symm
    · exact hstem heq
    · exact hextends he
    · exact hextends' he

/-- No name of a client is that of an iterator. -/
theorem iterator_notMem_globals (stem : String) : stem ++ "Iterator" ∉ client.globals := by
  intro h
  obtain ⟨f, hf, h⟩ := List.mem_map.mp h
  have hsuffix : ∀ f ∈ forms true,
      ¬ (f.2.toList <:+ "Iterator".toList ∨ "Iterator".toList <:+ f.2.toList) := by
    decide
  exact hsuffix f (mem_forms hf) (suffix_or_suffix h)

theorem disjoint_doc_iff :
    client.globals.Disjoint ["insertMetadata", "versionGo", "versionClient"] ↔
      client.stem ≠ "version" := by
  constructor
  · intro h hstem
    have hname := @mem_globals client ("", "Client") (by decide)
    rw [hstem] at hname
    exact h hname (by decide)
  · intro hstem name hc hd
    obtain ⟨f, hf, rfl⟩ := List.mem_map.mp hc
    have hsuffix : ∀ name ∈ ["insertMetadata", "versionGo", "versionClient"], ∀ f ∈ forms true,
        f.2.toList <:+ name.toList → name = "version" ++ f.2 ∧ f.1 ∈ ["", "New"] := by
      decide
    obtain ⟨hname, hword⟩ := hsuffix _ hd f (mem_forms hf) ⟨_, (String.toList_append ..).symm⟩
    have hfront : f.1 ++ client.stem = "version" := (String.append_left_inj _).mp hname
    simp only [List.mem_cons, List.not_mem_nil, or_false] at hword
    obtain hword | hword := hword
    · rw [hword, String.empty_append] at hfront
      exact hstem hfront
    · rw [hword] at hfront
      have hlist := congrArg String.toList hfront
      rw [String.toList_append] at hlist
      cases hlist

variable {options : Options} {clients : List Client} {element : Element} {catalog : Catalog}
  {file : File} {service : Service}

/-- The names of iterators end as those of no other type do. -/
theorem Resolved.exists_iterator_eq (h : Resolved catalog options file service client)
    (he : element ∈ client.elements) : ∃ stem, element.iterator = stem ++ "Iterator" := by
  obtain ⟨page, _, hpage⟩ := Except.exists_mem_of_forall₂ h.forall₂_pages he
  rw [Element.resolve_iterator hpage]
  cases page with
  | message typeName => exact ⟨_, rfl⟩
  | scalar goType stem => exact ⟨_, rfl⟩

def ownItems (options : Options) (client : Client) : List Item :=
  .package options.pkgName ::
    (client.globals.map .global ++ (members client.service).map (.method client.typeName))

theorem Resolved.items_eq (h : Resolved catalog options file service client) (new : List Element) :
    client.items options new = client.ownItems options ++ new.flatMap Element.items := by
  have hcalls : client.calls.map (·.method.name) = client.service.methods.map (·.name) := by
    rw [h.service_eq]
    exact Except.map_eq_of_forall₂ (h.calls_eq.imp fun _ _ hcall =>
      congrArg Method.name hcall.method_eq)
  have hmethods : client.calls.map (fun call => Item.method client.typeName call.method.name) =
      (client.service.methods.map (·.name)).map (.method client.typeName) := by
    rw [← hcalls, List.map_map]
    rfl
  have hscaffold : client.scaffoldItems = client.globals.map .global ++
      ["Connection", "Close", "setGoogleClientInfo"].map (.method client.typeName) := by
    unfold scaffoldItems globals forms
    split <;> simp [spell, optionsType, typeName, String.append_assoc]
  rw [items, hscaffold, hmethods, ownItems, members, List.map_append, List.cons_append,
    List.append_assoc (List.map Item.global client.globals)]

theorem filterMap_global_items (elements : List Element) :
    (elements.flatMap Element.items).filterMap Item.global? = iterators elements := by
  rw [List.filterMap_flatMap, iterators, List.map_eq_flatMap]
  rfl

theorem filterMap_method_items (elements : List Element) :
    (elements.flatMap Element.items).filterMap Item.method? =
      elements.flatMap fun element =>
        ["PageInfo", "Next", "bufLen", "takeBuf"].map (Prod.mk element.iterator) := by
  rw [List.filterMap_flatMap]
  rfl

theorem filterMap_package_items (elements : List Element) :
    (elements.flatMap Element.items).filterMap Item.package? = [] := by
  rw [List.filterMap_flatMap, List.flatMap_eq_nil_iff]
  exact fun _ _ => rfl

theorem filterMap_package_ownItems (options : Options) (client : Client) :
    (client.ownItems options).filterMap Item.package? = [options.pkgName] := by
  simp [ownItems, Item.package?]

theorem filterMap_global_ownItems (options : Options) (client : Client) :
    (client.ownItems options).filterMap Item.global? = client.globals := by
  have hglobals : (client.globals.map .global).filterMap Item.global? = client.globals := by
    rw [List.filterMap_map]
    exact List.filterMap_some
  have hmethods : ((members client.service).map (.method client.typeName)).filterMap Item.global? =
      [] := by
    rw [List.filterMap_map]
    exact List.filterMap_none _
  rw [ownItems, List.filterMap_cons_none rfl, List.filterMap_append, hglobals, hmethods,
    List.append_nil]

theorem filterMap_method_ownItems (options : Options) (client : Client) :
    (client.ownItems options).filterMap Item.method? =
      (members client.service).map (Prod.mk client.typeName) := by
  have hglobals : (client.globals.map .global).filterMap Item.method? = [] := by
    rw [List.filterMap_map]
    exact List.filterMap_none _
  have hmethods : ((members client.service).map (.method client.typeName)).filterMap Item.method? =
      (members client.service).map (Prod.mk client.typeName) := by
    rw [List.filterMap_map]
    exact congrFun List.filterMap_eq_map _
  rw [ownItems, List.filterMap_cons_none rfl, List.filterMap_append, hglobals, hmethods,
    List.nil_append]

/-- No two clients declare the same name, beside iterators, just when their stems differ and none is
another one after a word. -/
theorem nodup_flatMap_globals_iff : (clients.flatMap globals).Nodup ↔
    (clients.map (·.stem)).Nodup ∧
      ∀ client ∈ clients, ∀ other ∈ clients, ¬ Extends client.stem other.stem := by
  rw [List.nodup_flatMap]
  constructor
  · rintro ⟨_, hpairwise⟩
    have hstems := hpairwise.imp disjoint_globals_iff.mp
    -- with both directions the relation is symmetric, so it holds of all pairs and not only in
    -- order
    have hsymm : Std.Symm fun client other : Client =>
        ¬ Extends client.stem other.stem ∧ ¬ Extends other.stem client.stem := ⟨fun _ _ => And.symm⟩
    refine ⟨List.pairwise_map.mpr (hstems.imp And.left), fun client hc other ho => ?_⟩
    have hself (client : Client) : ¬ Extends client.stem client.stem ∧
        ¬ Extends client.stem client.stem :=
      ⟨not_extends_self _, not_extends_self _⟩
    exact (List.Pairwise.forall_of_forall (fun client _ => hself client) (hstems.imp And.right)
      hc ho).1
  · rintro ⟨hnodup, hextends⟩
    refine ⟨fun client _ => nodup_globals client, (List.pairwise_map.mp hnodup).imp_of_mem ?_⟩
    intro client other hc ho hne
    exact disjoint_globals_iff.mpr ⟨hne, hextends client hc other ho, hextends other ho client hc⟩

end Client

end ClientGen
