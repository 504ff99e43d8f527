import ClientGen.Proofs.Call.Retry
import ClientGen.Proofs.Proto.OptionTypes

namespace ClientGen.Proto

open Schema (HttpRule HttpVerb)
open Linked (plainVerbs textOrDefault)

/-- Whether a field of a message is present and holds a text. -/
def GivesText (type : MessageType) (members : Values) (field text : String) : Prop :=
  ∃ slot, type.field? field = some slot ∧ members.lookup slot.number = some (.scalar (.text text)) ∧
    slot.isPresent (.scalar (.text text)) = true

def HoldsString (type : MessageType) (members : Values) (field : String) : Prop :=
  ∃ slot value, type.field? field = some slot ∧ slot.type = .scalar .string ∧ slot.repeated = false ∧
    members.lookup slot.number = some value ∧ slot.isPresent value = true

section

variable {types : List MessageType} {type : MessageType} {members : Values} {field text : String}

theorem presentText?_eq_some_iff :
    Linked.presentText? type members field = some text ↔ GivesText type members field text := by
  simp only [Linked.presentText?, GivesText, Option.bind_eq_bind, Option.bind_eq_some_iff]
  refine exists_congr fun slot => and_congr_right fun _ => ?_
  constructor
  · rintro ⟨value, hv, h⟩
    split at h
    · split at h
      · rename_i hp
        cases h
        exact ⟨hv, hp⟩
      · cases h
    · cases h
  · rintro ⟨hv, hp⟩
    exact ⟨_, hv, if_pos hp⟩

/-- In a message of its type, the fields that give a text are those that are declared as strings. -/
theorem exists_givesText_iff (ht : Typed types type members)
    (hslot : ∀ slot, type.field? field = some slot → type.slot? slot.number = some slot) :
    (∃ text, GivesText type members field text) ↔ HoldsString type members field := by
  constructor
  · rintro ⟨text, slot, hf, hv, hp⟩
    have hfits := ht.lookup hv
    rw [hslot slot hf] at hfits
    cases hfits with
    | scalar hr hs =>
      have htype : slot.type = .scalar .string := by
        revert hs
        cases slot.type <;> simp [Scalar.Suits, FieldType.kind]
      exact ⟨slot, _, hf, htype, hr, hv, hp⟩
  · rintro ⟨slot, value, hf, hs, hr, hv, hp⟩
    have hfits := ht.lookup hv
    rw [hslot slot hf] at hfits
    cases hfits with
    | list hr' => cases hr.symm.trans hr'
    | message _ ht' => cases hs.symm.trans ht'
    | @scalar _ scalar _ hsuits =>
      rw [hs] at hsuits
      cases scalar with
      | text text => exact ⟨text, slot, hf, hv, hp⟩
      | bytes content => exact absurd rfl hsuits.2
      | _ => cases hsuits

end

def Linked.SetsRule (linked : Linked) (values : Values) (type : MessageType) (members : Values) :
    Prop :=
  ∃ extension name, linked.Declares "google.api.http" extension ∧
    values.lookup extension.slot.number = some (.message name members) ∧
    linked.types.find? (·.name == name) = some type

/-- The fields of a rule that stand for a verb, the first to count first. -/
def verbFields : List (String × HttpVerb) :=
  [("get", .get), ("put", .put), ("post", .post), ("delete", .delete), ("patch", .patch)]

theorem plainVerbs_eq_verbFields : plainVerbs = verbFields := rfl

/-- The first pattern of a rule. A pattern with a verb of its own counts if there is no other. -/
inductive FirstPattern (linked : Linked) (type : MessageType) (members : Values) : HttpRule → Prop
  | plain {before after : List (String × HttpVerb)} {field path : String} {verb : HttpVerb}
      (hv : verbFields = before ++ (field, verb) :: after)
      (hnone : ∀ entry ∈ before, ¬∃ text, GivesText type members entry.1 text)
      (ht : GivesText type members field path) : FirstPattern linked type members ⟨verb, path⟩
  | custom {slot : Slot} {name : String} {inner : MessageType} {own : Values}
      (hnone : ∀ entry ∈ verbFields, ¬∃ text, GivesText type members entry.1 text)
      (hs : type.field? "custom" = some slot)
      (hv : members.lookup slot.number = some (.message name own))
      (hi : linked.types.find? (·.name == name) = some inner) :
      FirstPattern linked type members
        ⟨.custom (textOrDefault inner own "kind"), textOrDefault inner own "path"⟩

section

variable {linked : Linked} {type : MessageType} {members values : Values} {rule : HttpRule}

theorem presentText?_eq_none_iff {field : String} : Linked.presentText? type members field = none ↔
    ¬∃ text, GivesText type members field text := by
  simp only [Option.eq_none_iff_forall_ne_some, ← presentText?_eq_some_iff, not_exists, ne_eq]

theorem customRule?_eq_some_iff : linked.customRule? type members = some rule ↔
    ∃ slot name inner own, type.field? "custom" = some slot ∧
      members.lookup slot.number = some (.message name own) ∧
      linked.types.find? (·.name == name) = some inner ∧
      rule = ⟨.custom (textOrDefault inner own "kind"), textOrDefault inner own "path"⟩ := by
  simp only [Linked.customRule?, Option.bind_eq_bind, Option.bind_eq_some_iff]
  constructor
  · rintro ⟨slot, hs, value, hv, h⟩
    split at h
    · obtain ⟨inner, hi, h⟩ := Option.bind_eq_some_iff.mp h
      cases h
      exact ⟨slot, _, inner, _, hs, hv, hi, rfl⟩
    · cases h
  · rintro ⟨slot, name, inner, own, hs, hv, hi, rfl⟩
    exact ⟨slot, hs, _, hv, Option.bind_eq_some_iff.mpr ⟨inner, hi, rfl⟩⟩

theorem ruleOf?_eq_some_iff :
    linked.ruleOf? type members = some rule ↔ FirstPattern linked type members rule := by
  unfold Linked.ruleOf?
  rw [plainVerbs_eq_verbFields, Option.or_eq_some_iff, List.findSome?_eq_some_iff,
    List.findSome?_eq_none_iff, customRule?_eq_some_iff]
  simp only [Option.map_eq_some_iff, Option.map_eq_none_iff, presentText?_eq_some_iff,
    presentText?_eq_none_iff]
  constructor
  · rintro (⟨before, ⟨field, verb⟩, after, hv, ⟨path, ht, rfl⟩, hnone⟩ |
      ⟨hnone, slot, name, inner, own, hs, hm, hi, rfl⟩)
    · exact .plain hv hnone ht
    · exact .custom hnone hs hm hi
  · intro h
    cases h with
    | plain hv hnone ht => exact .inl ⟨_, _, _, hv, ⟨_, ht, rfl⟩, hnone⟩
    | custom hnone hs hm hi => exact .inr ⟨hnone, _, _, _, _, hs, hm, hi, rfl⟩

/-- The verb that reads is that of the first candidate. -/
theorem exists_get_iff : (∃ rule, FirstPattern linked type members rule ∧ rule.verb = .get) ↔
    ∃ path, GivesText type members "get" path := by
  constructor
  · rintro ⟨rule, h, hget⟩
    cases h with
    | @plain before after field path verb hv _ ht =>
      obtain rfl : verb = .get := hget
      have hmem : (field, HttpVerb.get) ∈ verbFields := by simp [hv]
      obtain rfl : field = "get" := by simpa [verbFields] using hmem
      exact ⟨path, ht⟩
    | custom => cases hget
  · rintro ⟨path, ht⟩
    have hv : verbFields = [] ++ ("get", .get) :: verbFields.tail := rfl
    exact ⟨_, .plain hv (by simp) ht, rfl⟩

variable {descriptors : List FileDecl} (h : Checked descriptors linked)

include h

theorem Checked.httpRule?_eq_some_iff : linked.httpRule? values = some rule ↔
    ∃ type members, linked.SetsRule values type members ∧ FirstPattern linked type members rule := by
  unfold Linked.httpRule? Linked.extensionValue? Linked.SetsRule
  simp only [← h.extension?_eq_some_iff, ← ruleOf?_eq_some_iff]
  constructor
  · intro hr
    split at hr
    · rename_i name members hv
      obtain ⟨extension, he, hv⟩ := Option.bind_eq_some_iff.mp hv
      obtain ⟨type, ht, hr⟩ := Option.bind_eq_some_iff.mp hr
      exact ⟨type, members, ⟨extension, name, he, hv, ht⟩, hr⟩
    · cases hr
  · rintro ⟨type, members, ⟨extension, name, he, hv, ht⟩, hr⟩
    rw [he, Option.bind_eq_bind, Option.bind_some, hv]
    dsimp only
    rw [ht, Option.bind_some, hr]

structure MethodRead (linked : Linked) (decl : MethodDecl) (values : Values)
    (method : Schema.Method) : Prop where
  name_eq : method.name = decl.name
  /-- A call is tried again just if it does not stream and its rule gives a path to read. -/
  isRetryable_iff : RetryPolicy.isRetryable method = true ↔
    decl.clientStreaming = false ∧ decl.serverStreaming = false ∧
      ∃ type rule path, linked.SetsRule values type rule ∧ GivesText type rule "get" path
  http_iff : ∀ http, method.http = some http ↔
    ∃ type rule, linked.SetsRule values type rule ∧ FirstPattern linked type rule http
  /-- If the extension holds a message at all, the type of the message is known. -/
  exists_type : ∀ extension name rule, linked.Declares "google.api.http" extension →
    values.lookup extension.slot.number = some (.message name rule) →
      ∃ type, linked.types.find? (·.name == name) = some type
  /-- The fields of it that give a text are those that are declared as single strings, unless
  options are set in words and extensions are confused by it. -/
  holdsString_iff : decl.options.settings = [] ∨ linked.SeparatesExtensions →
    ∀ type rule, linked.SetsRule values type rule → ∀ field,
      (∃ text, GivesText type rule field text) ↔ HoldsString type rule field

theorem Checked.methodRead {visible : List Nat} {scope : String} {decl : MethodDecl}
    {method : Schema.Method} {settled : Settled}
    (hm : linked.methodToSchema? visible scope decl = some method)
    (hs : linked.settle? ⟨visible, qualified scope decl.name⟩ .methodOptions decl.options =
      some settled) : MethodRead linked decl settled.values method := by
  obtain ⟨input, _, hm⟩ := Option.bind_eq_some_iff.mp hm
  obtain ⟨output, _, hm⟩ := Option.bind_eq_some_iff.mp hm
  rw [Linked.optionValues, hs, Option.map_some, Option.getD_some] at hm
  cases hm
  have hhttp (http : HttpRule) : linked.httpRule? settled.values = some http ↔
      ∃ type rule, linked.SetsRule settled.values type rule ∧ FirstPattern linked type rule http :=
    h.httpRule?_eq_some_iff
  refine ⟨rfl, ?_, hhttp, ?_, ?_⟩
  · rw [RetryPolicy.isRetryable_iff, and_comm, and_assoc]
    refine and_congr_right fun _ => and_congr_right fun _ => ⟨?_, ?_⟩
    · rintro ⟨http, hr, hget⟩
      obtain ⟨type, rule, hset, hfirst⟩ := (hhttp http).mp hr
      obtain ⟨path, ht⟩ := exists_get_iff.mp ⟨http, hfirst, hget⟩
      exact ⟨type, rule, path, hset, ht⟩
    · rintro ⟨type, rule, path, hset, ht⟩
      obtain ⟨http, hfirst, hget⟩ := exists_get_iff.mpr ⟨path, ht⟩
      exact ⟨http, (hhttp http).mpr ⟨type, rule, hset, hfirst⟩, hget⟩
  · intro extension name rule _ hv
    exact h.exists_type_of_option rfl hs hv
  · rintro hsep type rule ⟨extension, name, _, hv, ht⟩ field
    have htyped := h.typed_of_option rfl hs hv hsep ht
    have hmem := List.mem_of_find?_eq_some ht
    exact exists_givesText_iff htyped fun _ hf => h.slot?_of_field? hmem hf

end

end ClientGen.Proto
