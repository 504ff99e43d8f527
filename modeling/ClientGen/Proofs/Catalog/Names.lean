import ClientGen.Client.GoType
import ClientGen.Proofs.Catalog.Lookup

namespace ClientGen

open Schema Text

/-- Induction over the nesting of messages. -/
@[elab_as_elim]
theorem Schema.Message.nesting {motive : Message → Prop}
    (step : ∀ message : Message, (∀ inner ∈ message.messages, motive inner) → motive message)
    (message : Message) : motive message := by
  refine @Message.rec motive (fun messages => ∀ inner ∈ messages, motive inner)
    ?message ?nil ?cons message
  case message => exact fun name fields messages enums ih => step ⟨name, fields, messages, enums⟩ ih
  case nil => simp
  case cons =>
    intro first messages ihfirst ih inner hm
    rcases List.mem_cons.mp hm with rfl | hm
    · exact ihfirst
    · exact ih inner hm

def IsSegment (name : String) : Prop :=
  name ≠ "" ∧ '.' ∉ name.toList

instance (name : String) : Decidable (IsSegment name) :=
  inferInstanceAs (Decidable (_ ∧ _))

def Schema.File.HasSegments (file : File) : Prop :=
  ∀ entry ∈ file.declarations, IsSegment entry.2.name

instance (file : File) : Decidable file.HasSegments :=
  inferInstanceAs (Decidable (∀ entry ∈ file.declarations, IsSegment entry.2.name))

theorem messagesDeclarations_eq_flatMap (scope : String) (messages : List Message) :
    messagesDeclarations scope messages = messages.flatMap (messageDeclarations scope) := by
  induction messages with
  | nil => rfl
  | cons message messages ih => rw [messagesDeclarations, ih, List.flatMap_cons]

theorem messageDeclarations_eq (scope : String) (message : Message) :
    messageDeclarations scope message =
      message.fields.map
          (fun field => (memberName (memberName scope message.name) field.name, .field field)) ++
        message.messages.flatMap (messageDeclarations (memberName scope message.name)) ++
        enumDeclarations (memberName scope message.name) message.enums ++
        [(memberName scope message.name, .message message)] := by
  cases message
  rw [messageDeclarations, messagesDeclarations_eq_flatMap]

theorem mem_messageDeclarations_self (scope : String) (message : Message) :
    (memberName scope message.name, Node.message message) ∈ messageDeclarations scope message := by
  rw [messageDeclarations_eq]
  exact List.mem_append_right _ List.mem_cons_self

theorem exists_path_of_mem_messageDeclarations {scope : String} {message : Message}
    {entry : String × Node} (h : entry ∈ messageDeclarations scope message) :
    ∃ path : List String, entry.1 = path.foldl memberName (memberName scope message.name) := by
  induction message using Message.nesting generalizing scope with
  | step message ih =>
    rw [messageDeclarations_eq] at h
    simp only [List.mem_append, List.mem_map, List.mem_flatMap, List.mem_singleton] at h
    rcases h with ((⟨field, _, rfl⟩ | ⟨inner, hi, h⟩) | h) | rfl
    · exact ⟨[field.name], rfl⟩
    · obtain ⟨path, hp⟩ := ih inner hi h
      exact ⟨inner.name :: path, hp⟩
    · obtain ⟨enum, _, rfl⟩ := List.mem_map.mp h
      exact ⟨[enum.name], rfl⟩
    · exact ⟨[], rfl⟩

theorem field_mem_messageDeclarations (scope : String) {message : Message} {field : Field}
    (hf : field ∈ message.fields) :
    (memberName (memberName scope message.name) field.name, Node.field field) ∈
      messageDeclarations scope message := by
  rw [messageDeclarations_eq]
  simp only [List.mem_append, List.mem_map]
  exact .inl (.inl (.inl ⟨field, hf, rfl⟩))

theorem nested_mem_messageDeclarations (scope : String) {message inner : Message}
    {entry : String × Node} (hi : inner ∈ message.messages)
    (he : entry ∈ messageDeclarations (memberName scope message.name) inner) :
    entry ∈ messageDeclarations scope message := by
  rw [messageDeclarations_eq]
  simp only [List.mem_append, List.mem_flatMap]
  exact .inl (.inl (.inr ⟨inner, hi, he⟩))

theorem enum_mem_messageDeclarations (scope : String) {message : Message} {enum : EnumType}
    (he : enum ∈ message.enums) :
    (memberName (memberName scope message.name) enum.name, Node.enum enum) ∈
      messageDeclarations scope message := by
  rw [messageDeclarations_eq]
  simp only [List.mem_append]
  exact .inl (.inr (List.mem_map.mpr ⟨enum, he, rfl⟩))

theorem exists_field_mem_messageDeclarations {scope name : String} {message inner : Message}
    {field : Field} (h : (name, Node.message inner) ∈ messageDeclarations scope message)
    (hf : field ∈ inner.fields) :
    ∃ fieldName, (fieldName, Node.field field) ∈ messageDeclarations scope message := by
  induction message using Message.nesting generalizing scope with
  | step message ih =>
    rw [messageDeclarations_eq] at h
    simp only [List.mem_append, List.mem_map, List.mem_flatMap, List.mem_singleton] at h
    rcases h with ((⟨_, _, he⟩ | ⟨nested, hn, he⟩) | he) | he
    · cases he
    · obtain ⟨fieldName, hfield⟩ := ih nested hn he
      exact ⟨fieldName, nested_mem_messageDeclarations scope hn hfield⟩
    · obtain ⟨_, _, he⟩ := List.mem_map.mp he
      cases he
    · cases he
      exact ⟨_, field_mem_messageDeclarations scope hf⟩

theorem not_method_mem_messageDeclarations {scope name : String} {message : Message}
    {method : Method} : (name, Node.method method) ∉ messageDeclarations scope message := by
  induction message using Message.nesting generalizing scope with
  | step message ih =>
    intro h
    rw [messageDeclarations_eq] at h
    simp only [List.mem_append, List.mem_map, List.mem_flatMap, List.mem_singleton] at h
    rcases h with ((⟨_, _, he⟩ | ⟨inner, hi, he⟩) | he) | he
    · cases he
    · exact ih inner hi he
    · obtain ⟨_, _, he⟩ := List.mem_map.mp he
      cases he
    · cases he

namespace Schema.File

variable {file : File} {service : Service} {entry : String × Node}

theorem mem_declarations :
    entry ∈ file.declarations ↔
      (∃ message ∈ file.messages, entry ∈ messageDeclarations file.scope message) ∨
        entry ∈ enumDeclarations file.scope file.enums ∨
          ∃ service ∈ file.services, entry ∈ serviceDeclarations file.scope service := by
  simp only [declarations, messagesDeclarations_eq_flatMap, List.mem_append,
    List.mem_flatMap, or_assoc]

theorem enum_mem_declarations {enum : EnumType} (h : enum ∈ file.enums) :
    (memberName file.scope enum.name, Node.enum enum) ∈ file.declarations :=
  mem_declarations.mpr (.inr (.inl (List.mem_map.mpr ⟨enum, h, rfl⟩)))

theorem service_mem_declarations (h : service ∈ file.services) :
    (service.fullName file, Node.service service) ∈ file.declarations := by
  refine mem_declarations.mpr (.inr (.inr ⟨service, h, ?_⟩))
  exact List.mem_append_right _ List.mem_cons_self

theorem method_mem_declarations {method : Method} (h : service ∈ file.services)
    (hm : method ∈ service.methods) :
    (memberName (service.fullName file) method.name, Node.method method) ∈ file.declarations := by
  refine mem_declarations.mpr (.inr (.inr ⟨service, h, ?_⟩))
  exact List.mem_append_left _ (List.mem_map.mpr ⟨method, hm, rfl⟩)

theorem field_mem_declarations_iff {name : String} {field : Field} :
    (name, Node.field field) ∈ file.declarations ↔
      ∃ message ∈ file.messages,
        (name, Node.field field) ∈ messageDeclarations file.scope message := by
  simp [mem_declarations, enumDeclarations, serviceDeclarations]

theorem message_mem_declarations_iff {name : String} {message : Message} :
    (name, Node.message message) ∈ file.declarations ↔
      ∃ outer ∈ file.messages,
        (name, Node.message message) ∈ messageDeclarations file.scope outer := by
  simp [mem_declarations, enumDeclarations, serviceDeclarations]

theorem method_mem_declarations_iff {name : String} {method : Method} :
    (name, Node.method method) ∈ file.declarations ↔
      ∃ service ∈ file.services, method ∈ service.methods ∧
        name = memberName (service.fullName file) method.name := by
  constructor
  · intro h
    obtain ⟨_, _, h⟩ | h | ⟨service, hs, h⟩ := mem_declarations.mp h
    · exact absurd h not_method_mem_messageDeclarations
    · obtain ⟨_, _, he⟩ := List.mem_map.mp h
      cases he
    · rw [serviceDeclarations, List.mem_append, List.mem_map, List.mem_singleton] at h
      obtain ⟨_, hm, he⟩ | he := h
      · cases he
        exact ⟨service, hs, hm, rfl⟩
      · cases he
  · rintro ⟨service, hs, hm, rfl⟩
    exact method_mem_declarations hs hm

theorem exists_field_mem_declarations {name : String} {message : Message} {field : Field}
    (h : (name, Node.message message) ∈ file.declarations) (hf : field ∈ message.fields) :
    ∃ fieldName, (fieldName, Node.field field) ∈ file.declarations := by
  obtain ⟨outer, ho, h⟩ := message_mem_declarations_iff.mp h
  obtain ⟨fieldName, hfield⟩ := exists_field_mem_messageDeclarations h hf
  exact ⟨fieldName, field_mem_declarations_iff.mpr ⟨outer, ho, hfield⟩⟩

/-- The first segment below the package names an element of the file itself. -/
theorem exists_path_of_mem_declarations (h : entry ∈ file.declarations) :
    ∃ top ∈ file.declarations, ∃ path : List String,
      entry.1 = path.foldl memberName (memberName file.scope top.2.name) := by
  rcases mem_declarations.mp h with ⟨message, hm, hentry⟩ | hentry | ⟨service, hs, hentry⟩
  · obtain ⟨path, hp⟩ := exists_path_of_mem_messageDeclarations hentry
    refine ⟨(memberName file.scope message.name, .message message), ?_, path, hp⟩
    exact mem_declarations.mpr (.inl ⟨message, hm, mem_messageDeclarations_self _ _⟩)
  · obtain ⟨enum, _, rfl⟩ := List.mem_map.mp hentry
    exact ⟨_, h, [], rfl⟩
  · rw [serviceDeclarations, List.mem_append, List.mem_map, List.mem_singleton] at hentry
    rcases hentry with ⟨method, _, rfl⟩ | rfl
    · exact ⟨_, service_mem_declarations hs, [method.name], rfl⟩
    · exact ⟨_, h, [], rfl⟩

end Schema.File

theorem toList_foldl_memberName (path : List String) (scope : String) :
    (path.foldl memberName scope).toList =
      scope.toList ++ path.flatMap fun name => '.' :: name.toList := by
  induction path generalizing scope with
  | nil => simp
  | cons name path ih => simp [ih, memberName]

namespace GoType

theorem nameIn?_foldl (file : File) {name : String} (hn : IsSegment name) (path : List String) :
    nameIn? file (path.foldl memberName (memberName file.scope name)) =
      some (.ofList ((name.toList ++ path.flatMap fun name => '.' :: name.toList).map
        fun c => if c = '.' then '_' else c)) := by
  have hlist : (path.foldl memberName (memberName file.scope name)).toList =
      file.scope.toList ++ '.' :: (name.toList ++ path.flatMap fun name => '.' :: name.toList) := by
    simp [toList_foldl_memberName, memberName]
  obtain ⟨c, rest, hc⟩ : ∃ c rest, name.toList = c :: rest := by
    cases h : name.toList with
    | nil => exact absurd (String.toList_eq_nil_iff.mp h) hn.1
    | cons c rest => exact ⟨c, rest, rfl⟩
  have hdot : c ≠ '.' := by
    rintro rfl
    exact hn.2 (by simp [hc])
  have hafter : after? file.scope (path.foldl memberName (memberName file.scope name)) =
      some (.ofList ('.' :: (name.toList ++ path.flatMap fun name => '.' :: name.toList))) := by
    rw [after?, hlist]
    simp
  have hdrop :
      dropLeading '.' (.ofList ('.' :: (name.toList ++ path.flatMap fun name =>
        '.' :: name.toList))) =
        .ofList (name.toList ++ path.flatMap fun name => '.' :: name.toList) := by
    rw [dropLeading, String.toList_ofList, List.dropWhile_cons_of_pos (by rfl), hc, List.cons_append,
      List.dropWhile_cons_of_neg (by simpa using hdot)]
  rw [nameIn?, hafter, Option.bind_eq_bind, Option.bind_some]
  dsimp only
  rw [hdrop, if_neg, String.toList_ofList]
  simp [hc]

/-- The Go name of a declared element exists. -/
theorem exists_nameIn? {file : File} (h : file.HasSegments) {entry : String × Node}
    (he : entry ∈ file.declarations) : ∃ name, nameIn? file entry.1 = some name := by
  obtain ⟨top, ht, path, hp⟩ := File.exists_path_of_mem_declarations he
  rw [hp, nameIn?_foldl file (h top ht)]
  exact ⟨_, rfl⟩

end GoType

end ClientGen
