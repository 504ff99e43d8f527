import ClientGen.Proofs.Catalog.Names
import ClientGen.Proofs.Catalog.Places

namespace ClientGen

open Schema

/-- What a message declares, by place, with the simple names that lead to it: its fields, then what
is nested in it, messages before enums, and then itself. -/
inductive Schema.Message.Holds : Message → Place → List String → Node → Prop
  | field {message : Message} {i : Nat} {field : Field} (h : message.fields[i]? = some field) :
      Holds message [0, i] [message.name, field.name] (.field field)
  | nested {message : Message} {i : Nat} {inner : Message} {place : Place} {names : List String}
      {node : Node} (h : message.messages[i]? = some inner) (hn : Holds inner place names node) :
      Holds message (1 :: i :: place) (message.name :: names) node
  | enum {message : Message} {i : Nat} {enum : EnumType} (h : message.enums[i]? = some enum) :
      Holds message [2, i] [message.name, enum.name] (.enum enum)
  | itself {message : Message} : Holds message [3] [message.name] (.message message)

inductive Schema.Service.Holds (service : Service) : Place → List String → Node → Prop
  | method {i : Nat} {method : Method} (h : service.methods[i]? = some method) :
      Holds service [0, i] [service.name, method.name] (.method method)
  | itself : Holds service [1] [service.name] (.service service)

inductive Schema.File.Holds (file : File) : Place → List String → Node → Prop
  | message {i : Nat} {message : Message} {place : Place} {names : List String} {node : Node}
      (h : file.messages[i]? = some message) (hn : message.Holds place names node) :
      Holds file (0 :: i :: place) names node
  | enum {i : Nat} {enum : EnumType} (h : file.enums[i]? = some enum) :
      Holds file [1, i] [enum.name] (.enum enum)
  | service {i : Nat} {service : Service} {place : Place} {names : List String} {node : Node}
      (h : file.services[i]? = some service) (hn : service.Holds place names node) :
      Holds file (2 :: i :: place) names node

def fullName (package : String) (names : List String) : String :=
  "." ++ ".".intercalate (if package = "" then names else package :: names)

inductive Catalog.Holds (files : List File) : Place → String → Declaration → Prop
  | intro {i : Nat} {file : File} {place : Place} {names : List String} {node : Node}
      (h : files[i]? = some file) (hn : file.Holds place names node) :
      Holds files (i :: place) (fullName file.package names) ⟨node, file⟩

theorem Schema.Message.enumerates (scope : String) (message : Message) :
    Enumerates (fun place (entry : String × Node) =>
        ∃ names, message.Holds place names entry.2 ∧ entry.1 = names.foldl memberName scope)
      (messageDeclarations scope message) := by
  induction message using Message.nesting generalizing scope with
  | step message ih =>
    have hfields := (Enumerates.map (fun field : Field =>
      (memberName (memberName scope message.name) field.name, Node.field field))
      message.fields).under 0
    have hnested := (Enumerates.flatMap message.messages fun inner hi =>
      ih inner hi (memberName scope message.name)).under 1
    have henums := (Enumerates.map (fun enum : EnumType =>
      (memberName (memberName scope message.name) enum.name, Node.enum enum))
      message.enums).under 2
    have hitself := (Enumerates.single (memberName scope message.name, Node.message message)).under 3
    rw [messageDeclarations_eq]
    refine (((hfields.append hnested ?_).append henums ?_).append hitself ?_).congr ?_
    · rintro _ _ _ _ ⟨_, rfl, _⟩ ⟨_, rfl, _⟩
      exact List.Lex.rel (by decide)
    · rintro _ _ _ _ (⟨_, rfl, _⟩ | ⟨_, rfl, _⟩) ⟨_, rfl, _⟩ <;> exact List.Lex.rel (by decide)
    · rintro _ _ _ _ ((⟨_, rfl, _⟩ | ⟨_, rfl, _⟩) | ⟨_, rfl, _⟩) ⟨_, rfl, _⟩ <;>
        exact List.Lex.rel (by decide)
    · intro place entry
      constructor
      · rintro (((⟨_, rfl, i, field, hi, rfl, rfl⟩ |
            ⟨_, rfl, i, inner, rest, hi, rfl, names, hn, he⟩) |
            ⟨_, rfl, i, enum, hi, rfl, rfl⟩) | ⟨_, rfl, rfl, rfl⟩)
        · exact ⟨_, .field hi, rfl⟩
        · exact ⟨_, .nested hi hn, he⟩
        · exact ⟨_, .enum hi, rfl⟩
        · exact ⟨_, .itself, rfl⟩
      · obtain ⟨name, node⟩ := entry
        rintro ⟨names, hn, rfl⟩
        cases hn with
        | field hi => exact .inl (.inl (.inl ⟨_, rfl, _, _, hi, rfl, rfl⟩))
        | nested hi hn => exact .inl (.inl (.inr ⟨_, rfl, _, _, _, hi, rfl, _, hn, rfl⟩))
        | enum hi => exact .inl (.inr ⟨_, rfl, _, _, hi, rfl, rfl⟩)
        | itself => exact .inr ⟨_, rfl, rfl, rfl⟩

theorem Schema.Service.enumerates (scope : String) (service : Service) :
    Enumerates (fun place (entry : String × Node) =>
        ∃ names, service.Holds place names entry.2 ∧ entry.1 = names.foldl memberName scope)
      (serviceDeclarations scope service) := by
  have hmethods := (Enumerates.map (fun method : Method =>
    (memberName (memberName scope service.name) method.name, Node.method method))
    service.methods).under 0
  have hitself := (Enumerates.single (memberName scope service.name, Node.service service)).under 1
  refine (hmethods.append hitself ?_).congr fun place entry => ?_
  · rintro _ _ _ _ ⟨_, rfl, _⟩ ⟨_, rfl, _⟩
    exact List.Lex.rel (by decide)
  · constructor
    · rintro (⟨_, rfl, i, method, hi, rfl, rfl⟩ | ⟨_, rfl, rfl, rfl⟩)
      · exact ⟨_, .method hi, rfl⟩
      · exact ⟨_, .itself, rfl⟩
    · obtain ⟨name, node⟩ := entry
      rintro ⟨names, hn, rfl⟩
      cases hn with
      | method hi => exact .inl ⟨_, rfl, _, _, hi, rfl, rfl⟩
      | itself => exact .inr ⟨_, rfl, rfl, rfl⟩

theorem Schema.File.enumerates (file : File) :
    Enumerates (fun place (entry : String × Node) =>
        ∃ names, file.Holds place names entry.2 ∧ entry.1 = names.foldl memberName file.scope)
      file.declarations := by
  have hmessages := (Enumerates.flatMap file.messages fun message _ =>
    message.enumerates file.scope).under 0
  have henums := (Enumerates.map (fun enum : EnumType =>
    (memberName file.scope enum.name, Node.enum enum)) file.enums).under 1
  have hservices := (Enumerates.flatMap file.services fun service _ =>
    service.enumerates file.scope).under 2
  rw [File.declarations, messagesDeclarations_eq_flatMap]
  refine ((hmessages.append henums ?_).append hservices ?_).congr fun place entry => ?_
  · rintro _ _ _ _ ⟨_, rfl, _⟩ ⟨_, rfl, _⟩
    exact List.Lex.rel (by decide)
  · rintro _ _ _ _ (⟨_, rfl, _⟩ | ⟨_, rfl, _⟩) ⟨_, rfl, _⟩ <;> exact List.Lex.rel (by decide)
  · constructor
    · rintro ((⟨_, rfl, i, message, rest, hi, rfl, names, hn, he⟩ |
          ⟨_, rfl, i, enum, hi, rfl, rfl⟩) |
          ⟨_, rfl, i, service, rest, hi, rfl, names, hn, he⟩)
      · exact ⟨_, .message hi hn, he⟩
      · exact ⟨_, .enum hi, rfl⟩
      · exact ⟨_, .service hi hn, he⟩
    · obtain ⟨name, node⟩ := entry
      rintro ⟨names, hn, rfl⟩
      cases hn with
      | message hi hn => exact .inl (.inl ⟨_, rfl, _, _, _, hi, rfl, _, hn, rfl⟩)
      | enum hi => exact .inl (.inr ⟨_, rfl, _, _, hi, rfl, rfl⟩)
      | service hi hn => exact .inr ⟨_, rfl, _, _, _, hi, rfl, _, hn, rfl⟩

theorem intercalate_eq_foldl (name : String) (names : List String) :
    ".".intercalate (name :: names) = names.foldl memberName name := by
  induction names generalizing name with
  | nil => exact String.intercalate_singleton
  | cons next names ih =>
    rw [List.foldl_cons, ← ih]
    cases names with
    | nil => simp [memberName]
    | cons last names => simp [memberName, String.append_assoc]

theorem foldl_memberName_append (lead name : String) (names : List String) :
    names.foldl memberName (lead ++ name) = lead ++ names.foldl memberName name := by
  induction names generalizing name with
  | nil => rfl
  | cons next names ih =>
    rw [List.foldl_cons, List.foldl_cons, ← ih]
    simp [memberName, String.append_assoc]

theorem foldl_memberName_scope (package : String) {names : List String} (h : names ≠ []) :
    names.foldl memberName (scopeOfPackage package) = fullName package names := by
  obtain ⟨name, rest, rfl⟩ := List.exists_cons_of_ne_nil h
  by_cases hp : package = ""
  · subst hp
    rw [fullName, if_pos rfl, intercalate_eq_foldl, ← foldl_memberName_append]
    rfl
  · have hscope : scopeOfPackage package = "." ++ package := by
      simp [scopeOfPackage, hp]
    rw [fullName, if_neg hp, intercalate_eq_foldl, ← foldl_memberName_append, hscope]

theorem Schema.File.Holds.names_ne_nil {file : File} {place : Place} {names : List String}
    {node : Node} (h : file.Holds place names node) : names ≠ [] := by
  cases h with
  | message _ h => cases h <;> simp
  | enum _ => simp
  | service _ h => cases h <;> simp

namespace Catalog

variable {files : List File} {name : String} {declaration : Declaration}

theorem enumerates (files : List File) :
    Enumerates (fun place (entry : String × Declaration) => Holds files place entry.1 entry.2)
      (declarationsOf files) := by
  have hfiles := Enumerates.flatMap files fun file _ =>
    file.enumerates.map_entries fun entry : String × Node => (entry.1, Declaration.mk entry.2 file)
  refine hfiles.congr fun place entry => ?_
  constructor
  · rintro ⟨i, file, rest, hi, rfl, ⟨name, node⟩, ⟨names, hn, rfl⟩, rfl⟩
    rw [File.scope, foldl_memberName_scope _ hn.names_ne_nil]
    exact .intro hi hn
  · obtain ⟨name, declaration⟩ := entry
    intro h
    cases h with
    | @intro i file place names node hi hn =>
      refine ⟨i, file, place, hi, rfl, (names.foldl memberName file.scope, node),
        ⟨names, hn, rfl⟩, ?_⟩
      rw [File.scope, foldl_memberName_scope _ hn.names_ne_nil]
      rfl

/-- What counts for a full name: the declaration of it at the last place. -/
def Last (files : List File) (name : String) (declaration : Declaration) : Prop :=
  ∃ place, Holds files place name declaration ∧
    ∀ other held, Holds files other name held → other = place ∨ other.Before place

theorem get?_elements_iff_last :
    (ofFiles files).elements.get? name = some declaration ↔ Last files name declaration := by
  rw [get?_elements_ofFiles, (enumerates files).lookup_reverse_iff]
  rfl

theorem exists_get?_elements_iff :
    (∃ declaration, (ofFiles files).elements.get? name = some declaration) ↔
      ∃ place declaration, Holds files place name declaration := by
  rw [← Option.isSome_iff_exists, get?_elements_ofFiles, Table.isSome_lookup_iff, List.map_reverse,
    List.mem_reverse]
  simp only [List.mem_map, Prod.exists, exists_and_right, exists_eq_right, (enumerates files).mem_iff]
  exact exists_comm

/-- The last file of a name counts. -/
theorem file?_iff_last {file : File} :
    (ofFiles files).file? name = some file ↔
      ∃ i : Nat, files[i]? = some file ∧ file.name = name ∧
        ∀ (j : Nat) other, files[j]? = some other → other.name = name → j ≤ i := by
  have hfiles := Enumerates.map (fun file : File => (file.name, file)) files
  rw [file?_ofFiles, hfiles.lookup_reverse_iff]
  constructor
  · rintro ⟨_, ⟨i, _, hi, rfl, he⟩, hlast⟩
    cases he
    refine ⟨i, hi, rfl, fun j other hj hn => ?_⟩
    obtain he | hbefore := hlast [j] other ⟨j, other, hj, rfl, by rw [hn]⟩
    · exact (List.singleton_inj.mp he).le
    · exact ((List.lex_singleton_iff _ _).mp hbefore).le
  · rintro ⟨i, hi, rfl, hlast⟩
    refine ⟨[i], ⟨i, file, hi, rfl, rfl⟩, ?_⟩
    rintro _ other ⟨j, _, hj, rfl, he⟩
    obtain ⟨hn, rfl⟩ := Prod.mk.inj he
    obtain rfl | hlt := (hlast j other hj hn.symm).eq_or_lt
    · exact .inl rfl
    · exact .inr (.rel hlt)

theorem unresolved_of_message {catalog : Catalog} {fault : Fault}
    (h : catalog.message name = .error fault) :
    ∃ text, fault.diagnostic = .unresolvedReference text := by
  unfold Catalog.message at h
  split at h
  · cases h
  · cases h
    exact ⟨_, rfl⟩
  · cases h
    exact ⟨_, rfl⟩

/-- A catalog has a node for just the full names that are declared. The node and its file are those
of the last declaration, a file is the last of its name, and a message is found just where the last
declaration is one. -/
theorem ofFiles_gives_last (files : List File) (name : String) :
    ((∃ node, (ofFiles files).node? name = some node) ↔
        ∃ place declaration, Holds files place name declaration) ∧
      (∀ node file, (ofFiles files).node? name = some node ∧
          (ofFiles files).owningFile name = .ok file ↔ Last files name ⟨node, file⟩) ∧
      (∀ file, (ofFiles files).file? name = some file ↔
        ∃ i : Nat, files[i]? = some file ∧ file.name = name ∧
          ∀ (j : Nat) other, files[j]? = some other → other.name = name → j ≤ i) ∧
      (∀ message, (ofFiles files).message name = .ok message ↔
        ∃ file, Last files name ⟨.message message, file⟩) ∧
      ∀ fault, (ofFiles files).message name = .error fault →
        ∃ text, fault.diagnostic = .unresolvedReference text := by
  refine ⟨?_, fun node file => ?_, fun file => file?_iff_last, fun message => ?_,
    fun fault => unresolved_of_message⟩
  · rw [← exists_get?_elements_iff]
    simp only [node?, Option.map_eq_some_iff]
    exact ⟨fun ⟨_, declaration, hd, _⟩ => ⟨declaration, hd⟩,
      fun ⟨declaration, hd⟩ => ⟨_, declaration, hd, rfl⟩⟩
  · rw [← get?_elements_iff_last, owningFile_eq_ok_iff, node?, Option.map_eq_some_iff]
    constructor
    · rintro ⟨⟨declaration, hd, rfl⟩, _, hf⟩
      rw [hd] at hf
      cases hf
      exact hd
    · intro hd
      exact ⟨⟨_, hd, rfl⟩, _, hd⟩
  · rw [message_eq_ok_iff]
    simp only [get?_elements_iff_last]

end Catalog

end ClientGen
