import ClientGen.Call.Shape
import Mathlib.Data.List.Nodup

namespace ClientGen

open Schema

namespace Schema.Message

variable {message other : Message} {field : Field} {more : List Field} {name : String}
  {kind : FieldKind}

def HasSingle (message : Message) (name : String) (kind : FieldKind) : Prop :=
  ∃ field ∈ message.fields, field.name = name ∧ field.repeated = false ∧ field.kind = kind

/-- The first field of this name holds one value of this kind. -/
def HasFirst (message : Message) (name : String) (kind : FieldKind) : Prop :=
  ∃ field, message.fields.find? (·.name == name) = some field ∧ field.repeated = false ∧
    field.kind = kind

def OnlyRepeated (message : Message) (field : Field) : Prop :=
  field ∈ message.fields ∧ field.repeated = true ∧
    ∀ other ∈ message.fields, other.repeated = true → other = field

theorem unique_of_nodup (hnames : (message.fields.map (·.name)).Nodup) :
    ∀ one ∈ message.fields, ∀ two ∈ message.fields, one.name = name → two.name = name → one = two :=
  fun _ h1 _ h2 hn1 hn2 => List.inj_on_of_nodup_map hnames h1 h2 (hn1.trans hn2.symm)

theorem field?_eq_some_iff
    (hunique : ∀ one ∈ message.fields, ∀ two ∈ message.fields, one.name = name → two.name = name →
      one = two) :
    message.field? name = some field ↔ field ∈ message.fields ∧ field.name = name := by
  constructor
  · intro h
    exact ⟨List.mem_of_find?_eq_some h, by simpa using List.find?_some h⟩
  · rintro ⟨hm, hn⟩
    have hsome : (message.field? name).isSome := List.find?_isSome.mpr ⟨field, hm, by simpa using hn⟩
    obtain ⟨found, hf⟩ := Option.isSome_iff_exists.mp hsome
    have hname : found.name = name := by simpa using List.find?_some hf
    rw [hf, hunique found (List.mem_of_find?_eq_some hf) field hm hname hn]

/-- Neither the order of the fields nor fields of other names count when a field is looked up. -/
theorem field?_eq_of_perm (hnames : (message.fields.map (·.name)).Nodup)
    (hperm : other.fields.Perm (message.fields ++ more)) (hmore : ∀ field ∈ more, field.name ≠ name) :
    other.field? name = message.field? name := by
  have hmem {field : Field} (hn : field.name = name) :
      field ∈ other.fields ↔ field ∈ message.fields := by
    rw [hperm.mem_iff, List.mem_append, or_iff_left]
    exact fun hm => hmore field hm hn
  have hunique := @unique_of_nodup message name hnames
  ext field
  rw [field?_eq_some_iff hunique, field?_eq_some_iff]
  · exact and_congr_left hmem
  · intro one h1 two h2 hn1 hn2
    exact hunique one ((hmem hn1).mp h1) two ((hmem hn2).mp h2) hn1 hn2

theorem repeatedFields_perm (hperm : other.fields.Perm (message.fields ++ more))
    (hmore : ∀ field ∈ more, field.repeated = false) :
    other.repeatedFields.Perm message.repeatedFields := by
  have hnil : more.filter (·.repeated) = [] := by
    rw [List.filter_eq_nil_iff]
    intro field hm
    simp [hmore field hm]
  have hfilter := hperm.filter (·.repeated)
  rwa [List.filter_append, hnil, List.append_nil] at hfilter

theorem repeatedFields_eq_singleton_iff (hnames : (message.fields.map (·.name)).Nodup) :
    message.repeatedFields = [field] ↔ message.OnlyRepeated field := by
  have hnodup : message.repeatedFields.Nodup := (List.Nodup.of_map _ hnames).filter _
  rw [← List.perm_singleton, List.perm_ext_iff_of_nodup hnodup (List.nodup_singleton field)]
  simp only [repeatedFields, List.mem_filter, List.mem_singleton]
  constructor
  · intro h
    obtain ⟨hm, hr⟩ := (h field).mpr rfl
    exact ⟨hm, hr, fun other ho hr => (h other).mp ⟨ho, hr⟩⟩
  · rintro ⟨hm, hr, honly⟩ other
    constructor
    · exact fun ⟨ho, hr⟩ => honly other ho hr
    · rintro rfl
      exact ⟨hm, hr⟩

theorem repeatedFields_eq_nil_iff :
    message.repeatedFields = [] ↔ ∀ field ∈ message.fields, field.repeated = false := by
  simp [repeatedFields, List.filter_eq_nil_iff]

end Schema.Message

namespace CallShape

variable {method : Method} {input output input' output' : Message} {field : Field}
  {moreInput moreOutput : List Field} {result : Except Fault CallShape}

structure PageShaped (input output : Message) : Prop where
  size : input.HasSingle "page_size" .int32
  token : input.HasSingle "page_token" .string
  next : output.HasSingle "next_page_token" .string

theorem hasSingular_iff_hasFirst {message : Message} {name : String} {kind : FieldKind} :
    hasSingular message name kind = true ↔ message.HasFirst name kind := by
  simp [hasSingular, Option.any_eq_true, Message.field?, Field.isSingular, Message.HasFirst]

theorem hasSingular_iff {message : Message} {name : String} {kind : FieldKind}
    (hnames : (message.fields.map (·.name)).Nodup) :
    hasSingular message name kind = true ↔ message.HasSingle name kind := by
  rw [hasSingular, Option.any_eq_true]
  simp only [Message.field?_eq_some_iff (Message.unique_of_nodup hnames), Field.isSingular,
    Bool.and_eq_true, Bool.not_eq_true', beq_iff_eq, Message.HasSingle, and_assoc]

/-- The messages of a call carry page tokens, whatever fields come after the first of each name. -/
structure CarriesTokens (input output : Message) : Prop where
  size : input.HasFirst "page_size" .int32
  token : input.HasFirst "page_token" .string
  next : output.HasFirst "next_page_token" .string

theorem isPageShaped_iff_carriesTokens :
    isPageShaped input output = true ↔ CarriesTokens input output := by
  rw [isPageShaped, Bool.and_eq_true, Bool.and_eq_true, hasSingular_iff_hasFirst,
    hasSingular_iff_hasFirst, hasSingular_iff_hasFirst]
  exact ⟨fun ⟨⟨size, token⟩, next⟩ => ⟨size, token, next⟩,
    fun ⟨size, token, next⟩ => ⟨⟨size, token⟩, next⟩⟩

theorem isPageShaped_iff (hinput : (input.fields.map (·.name)).Nodup)
    (houtput : (output.fields.map (·.name)).Nodup) :
    isPageShaped input output = true ↔ PageShaped input output := by
  rw [isPageShaped, Bool.and_eq_true, Bool.and_eq_true, hasSingular_iff hinput,
    hasSingular_iff hinput, hasSingular_iff houtput]
  exact ⟨fun ⟨⟨size, token⟩, next⟩ => ⟨size, token, next⟩,
    fun ⟨size, token, next⟩ => ⟨⟨size, token⟩, next⟩⟩

/-- What a method is classified as, and which rule decides it. -/
inductive Classified (method : Method) (input output : Message) : Except Fault CallShape → Prop
  | longRunning (ho : method.outputType = operationType) :
      Classified method input output (.ok .longRunning)
  | paged {field : Field} (ho : method.outputType ≠ operationType)
      (hp : isPageShaped input output = true) (hr : output.repeatedFields = [field]) :
      Classified method input output (.ok (.paged field))
  | missing (ho : method.outputType ≠ operationType) (hp : isPageShaped input output = true)
      (hr : output.repeatedFields = []) :
      Classified method input output (.error (.missingPageElement method.name output.name))
  | ambiguous {count : Nat} (ho : method.outputType ≠ operationType)
      (hp : isPageShaped input output = true) (hr : output.repeatedFields.length = count)
      (hcount : 2 ≤ count) :
      Classified method input output (.error (.ambiguousPaging method.name output.name count))
  | streaming {shape : CallShape} (ho : method.outputType ≠ operationType)
      (hp : isPageShaped input output = false) (hs : ofStreaming method = shape) :
      Classified method input output (.ok shape)

theorem classify_eq_iff : classify method input output = result ↔
    Classified method input output result := by
  constructor
  · rintro rfl
    unfold classify pagingField
    split
    case isTrue ho => exact .longRunning ho
    case isFalse ho =>
      split
      case isFalse hp => exact .streaming ho (by simpa using hp) rfl
      case isTrue hp =>
        match hr : output.repeatedFields with
        | [] => exact .missing ho hp hr
        | [field] => exact .paged ho hp hr
        | _ :: _ :: _ => exact .ambiguous ho hp (congrArg List.length hr) (by simp)
  · intro h
    cases h with
    | longRunning ho => rw [classify, if_pos ho]
    | paged ho hp hr =>
      rw [classify, if_neg ho, pagingField, if_pos hp, hr]
      rfl
    | missing ho hp hr =>
      rw [classify, if_neg ho, pagingField, if_pos hp, hr]
      rfl
    | ambiguous ho hp hr hcount =>
      subst hr
      rw [classify, if_neg ho, pagingField, if_pos hp]
      match output.repeatedFields, hcount with
      | _ :: _ :: _, _ => rfl
    | streaming ho hp hs =>
      rw [classify, if_neg ho, pagingField, hp, ← hs]
      rfl

theorem ofStreaming_ne_longRunning (method : Method) : ofStreaming method ≠ .longRunning := by
  unfold ofStreaming
  split <;> simp

theorem ofStreaming_ne_paged (method : Method) (field : Field) :
    ofStreaming method ≠ .paged field := by
  unfold ofStreaming
  split <;> simp

theorem classify_eq_longRunning_iff :
    classify method input output = .ok .longRunning ↔ method.outputType = operationType := by
  rw [classify_eq_iff]
  constructor
  · intro h
    cases h with
    | longRunning ho => exact ho
    | streaming _ _ hs => exact absurd hs (ofStreaming_ne_longRunning method)
  · exact .longRunning

theorem classify_eq_paged_iff :
    classify method input output = .ok (.paged field) ↔
      method.outputType ≠ operationType ∧ isPageShaped input output = true ∧
        output.repeatedFields = [field] := by
  rw [classify_eq_iff]
  constructor
  · intro h
    cases h with
    | paged ho hp hr => exact ⟨ho, hp, hr⟩
    | streaming _ _ hs => exact absurd hs (ofStreaming_ne_paged method field)
  · rintro ⟨ho, hp, hr⟩
    exact .paged ho hp hr

theorem classify_eq_missing_iff {call message : String} :
    classify method input output = .error (.missingPageElement call message) ↔
      method.outputType ≠ operationType ∧ isPageShaped input output = true ∧
        output.repeatedFields = [] ∧ call = method.name ∧ message = output.name := by
  rw [classify_eq_iff]
  constructor
  · intro h
    cases h with
    | missing ho hp hr => exact ⟨ho, hp, hr, rfl, rfl⟩
  · rintro ⟨ho, hp, hr, rfl, rfl⟩
    exact .missing ho hp hr

theorem classify_eq_ambiguous_iff {call message : String} {count : Nat} :
    classify method input output = .error (.ambiguousPaging call message count) ↔
      method.outputType ≠ operationType ∧ isPageShaped input output = true ∧
        (output.repeatedFields.length = count ∧ 2 ≤ count) ∧
        call = method.name ∧ message = output.name := by
  rw [classify_eq_iff]
  constructor
  · intro h
    cases h with
    | ambiguous ho hp hr hcount => exact ⟨ho, hp, ⟨hr, hcount⟩, rfl, rfl⟩
  · rintro ⟨ho, hp, ⟨hr, hcount⟩, rfl, rfl⟩
    exact .ambiguous ho hp hr hcount

/-- A call is classified by its streams only if neither rule before applies. -/
theorem classify_eq_ok_iff {shape : CallShape} (hne : shape ≠ .longRunning)
    (hpaged : ∀ field, shape ≠ .paged field) :
    classify method input output = .ok shape ↔
      method.outputType ≠ operationType ∧ isPageShaped input output = false ∧
        ofStreaming method = shape := by
  rw [classify_eq_iff]
  constructor
  · intro h
    cases h with
    | longRunning => exact absurd rfl hne
    | paged => exact absurd rfl (hpaged _)
    | streaming ho hp hs => exact ⟨ho, hp, hs⟩
  · rintro ⟨ho, hp, hs⟩
    exact .streaming ho hp hs

theorem ofStreaming_eq_iff (method : Method) :
    (ofStreaming method = .unary ↔ method.clientStreaming = false ∧ method.serverStreaming = false) ∧
      (ofStreaming method = .serverStreaming ↔
        method.clientStreaming = false ∧ method.serverStreaming = true) ∧
      (ofStreaming method = .clientStreaming ↔
        method.clientStreaming = true ∧ method.serverStreaming = false) ∧
      (ofStreaming method = .bidiStreaming ↔
        method.clientStreaming = true ∧ method.serverStreaming = true) := by
  unfold ofStreaming
  split <;> simp_all

theorem exists_classify_iff :
    (∃ shape, classify method input output = .ok shape) ↔
      (method.outputType ≠ operationType → isPageShaped input output = true →
        output.repeatedFields.length = 1) := by
  simp only [classify_eq_iff]
  constructor
  · rintro ⟨shape, h⟩ hne hpages
    cases h with
    | longRunning ho => exact absurd ho hne
    | paged _ _ hr => exact congrArg List.length hr
    | streaming _ hp _ => rw [hp] at hpages; cases hpages
  · intro h
    by_cases ho : method.outputType = operationType
    · exact ⟨_, .longRunning ho⟩
    · cases hp : isPageShaped input output with
      | false => exact ⟨_, .streaming ho hp rfl⟩
      | true =>
        obtain ⟨field, hr⟩ := List.length_eq_one_iff.mp (h ho hp)
        exact ⟨_, .paged ho hp hr⟩

theorem fault_of_classify {fault : Fault} (h : classify method input output = .error fault) :
    fault = .missingPageElement method.name output.name ∨
      fault = .ambiguousPaging method.name output.name output.repeatedFields.length := by
  cases classify_eq_iff.mp h with
  | missing => exact .inl rfl
  | ambiguous _ _ hr => exact .inr (by rw [hr])

/-- A classification counts page tokens and repeated fields, and so does not see the order of
either. -/
theorem Classified.congr (h : Classified method input output result)
    (hp' : isPageShaped input' output' = isPageShaped input output)
    (hr' : output'.repeatedFields.Perm output.repeatedFields) (hname : output'.name = output.name) :
    Classified method input' output' result := by
  cases h with
  | longRunning ho => exact .longRunning ho
  | paged ho hp hr => exact .paged ho (hp'.trans hp) (List.perm_singleton.mp (hr ▸ hr'))
  | missing ho hp hr =>
    rw [← hname]
    exact .missing ho (hp'.trans hp) (List.perm_nil.mp (hr ▸ hr'))
  | ambiguous ho hp hr hcount =>
    rw [← hname]
    exact .ambiguous ho (hp'.trans hp) (hr'.length_eq.trans hr) hcount
  | streaming ho hp hs => exact .streaming ho (hp'.trans hp) hs

theorem hasSingular_eq_of_perm {message other : Message} {more : List Field} {name : String}
    {kind : FieldKind} (hnames : (message.fields.map (·.name)).Nodup)
    (hperm : other.fields.Perm (message.fields ++ more)) (hmore : ∀ field ∈ more, field.name ≠ name) :
    hasSingular other name kind = hasSingular message name kind := by
  rw [hasSingular, hasSingular, Message.field?_eq_of_perm hnames hperm hmore]

/-- Fields may come in any order. Of the request, only the two fields that a paged request has may
not be added, and of the response only repeated fields and the token of the next page. -/
theorem classify_eq_of_perm (hinput : (input.fields.map (·.name)).Nodup)
    (houtput : (output.fields.map (·.name)).Nodup)
    (hin : input'.fields.Perm (input.fields ++ moreInput))
    (hmoreIn : ∀ field ∈ moreInput, field.name ≠ "page_size" ∧ field.name ≠ "page_token")
    (hout : output'.fields.Perm (output.fields ++ moreOutput))
    (hmoreOut : ∀ field ∈ moreOutput, field.repeated = false ∧ field.name ≠ "next_page_token")
    (hname : output'.name = output.name) :
    classify method input' output' = classify method input output := by
  have hp' : isPageShaped input' output' = isPageShaped input output := by
    rw [isPageShaped, isPageShaped,
      hasSingular_eq_of_perm hinput hin fun field hm => (hmoreIn field hm).1,
      hasSingular_eq_of_perm hinput hin fun field hm => (hmoreIn field hm).2,
      hasSingular_eq_of_perm houtput hout fun field hm => (hmoreOut field hm).2]
  have hr' := Message.repeatedFields_perm hout fun field hm => (hmoreOut field hm).1
  exact classify_eq_iff.mpr ((classify_eq_iff.mp rfl).congr hp' hr' hname)

/-- Only what fields the messages have decides how a method is called. -/
theorem classify_by_fields (method : Method) {input output : Message}
    (hinput : (input.fields.map (·.name)).Nodup) (houtput : (output.fields.map (·.name)).Nodup) :
    (classify method input output = .ok .longRunning ↔ method.outputType = operationType) ∧
      (method.outputType ≠ operationType →
        (∀ field, classify method input output = .ok (.paged field) ↔
          PageShaped input output ∧ output.OnlyRepeated field) ∧
        (∀ call message, classify method input output = .error (.missingPageElement call message) ↔
          PageShaped input output ∧ (∀ field ∈ output.fields, field.repeated = false) ∧
            call = method.name ∧ message = output.name) ∧
        (∀ call message count,
          classify method input output = .error (.ambiguousPaging call message count) ↔
            PageShaped input output ∧ (output.fields.countP (·.repeated) = count ∧ 2 ≤ count) ∧
              call = method.name ∧ message = output.name) ∧
        (classify method input output = .ok .unary ↔ ¬PageShaped input output ∧
          method.clientStreaming = false ∧ method.serverStreaming = false) ∧
        (classify method input output = .ok .serverStreaming ↔ ¬PageShaped input output ∧
          method.clientStreaming = false ∧ method.serverStreaming = true) ∧
        (classify method input output = .ok .clientStreaming ↔ ¬PageShaped input output ∧
          method.clientStreaming = true ∧ method.serverStreaming = false) ∧
        (classify method input output = .ok .bidiStreaming ↔ ¬PageShaped input output ∧
          method.clientStreaming = true ∧ method.serverStreaming = true)) ∧
      ∀ (input' output' : Message) (moreInput moreOutput : List Field),
        input'.fields.Perm (input.fields ++ moreInput) →
        (∀ field ∈ moreInput, field.name ≠ "page_size" ∧ field.name ≠ "page_token") →
        output'.fields.Perm (output.fields ++ moreOutput) →
        (∀ field ∈ moreOutput, field.repeated = false ∧ field.name ≠ "next_page_token") →
        output'.name = output.name →
        classify method input' output' = classify method input output := by
  have hshaped := isPageShaped_iff hinput houtput
  obtain ⟨hunary, hserver, hclient, hbidi⟩ := ofStreaming_eq_iff method
  have hflags {shape : CallShape} (hne : shape ≠ .longRunning)
      (hpaged : ∀ field, shape ≠ .paged field)
      (ho : method.outputType ≠ operationType) : classify method input output = .ok shape ↔
        ¬PageShaped input output ∧ ofStreaming method = shape := by
    rw [classify_eq_ok_iff hne hpaged, ← hshaped, Bool.not_eq_true, and_iff_right ho]
  refine ⟨classify_eq_longRunning_iff, fun ho => ⟨fun field => ?_, fun call message => ?_,
    fun call message count => ?_, ?_, ?_, ?_, ?_⟩, fun _ _ _ _ hin hmoreIn hout hmoreOut hname =>
      classify_eq_of_perm hinput houtput hin hmoreIn hout hmoreOut hname⟩
  · rw [classify_eq_paged_iff, hshaped, Message.repeatedFields_eq_singleton_iff houtput,
      and_iff_right ho]
  · rw [classify_eq_missing_iff, hshaped, Message.repeatedFields_eq_nil_iff, and_iff_right ho]
  · rw [classify_eq_ambiguous_iff, hshaped, Message.repeatedFields, ← List.countP_eq_length_filter,
      and_iff_right ho]
  · rw [hflags (by simp) (by simp) ho, hunary]
  · rw [hflags (by simp) (by simp) ho, hserver]
  · rw [hflags (by simp) (by simp) ho, hclient]
  · rw [hflags (by simp) (by simp) ho, hbidi]

def listBooks : Method where
  name := "ListBooks"
  inputType := ".library.ListBooksRequest"
  outputType := ".library.ListBooksResponse"
  http := some ⟨.get, "/v1/books"⟩

def listBooksRequest : Message where
  name := "ListBooksRequest"
  fields := [{ name := "page_size", number := 1, kind := .int32 },
    { name := "page_token", number := 2, kind := .string }]

def booksField : Field where
  name := "books"
  number := 1
  kind := .message
  repeated := true
  typeName := some ".library.Book"

def listBooksResponse : Message where
  name := "ListBooksResponse"
  fields := [booksField, { name := "next_page_token", number := 2, kind := .string }]

def parentField : Field where
  name := "parent"
  number := 3
  kind := .string
  repeated := true

def totalField : Field where
  name := "total_size"
  number := 3
  kind := .int32

/-- The request and the response as they came to be later, with their fields in another order. -/
def laterRequest : Message where
  name := "ListBooksRequest"
  fields := parentField :: listBooksRequest.fields.reverse

def laterResponse : Message where
  name := "ListBooksResponse"
  fields := (listBooksResponse.fields ++ [totalField]).reverse

def streamBooks (client server : Bool) : Method :=
  { listBooks with clientStreaming := client, serverStreaming := server }

theorem classify_by_fields_books :
    (listBooksRequest.fields.map (·.name)).Nodup ∧ (listBooksResponse.fields.map (·.name)).Nodup ∧
      classify listBooks listBooksRequest listBooksResponse = .ok (.paged booksField) ∧
      classify listBooks laterRequest laterResponse = .ok (.paged booksField) ∧
      classify (streamBooks true true) listBooksRequest listBooksResponse = .ok (.paged booksField) ∧
      classify (streamBooks false false) listBooksRequest listBooksRequest = .ok .unary ∧
      classify (streamBooks false true) listBooksRequest listBooksRequest = .ok .serverStreaming ∧
      classify (streamBooks true false) listBooksRequest listBooksRequest = .ok .clientStreaming ∧
      classify (streamBooks true true) listBooksRequest listBooksRequest = .ok .bidiStreaming := by
  have hinput : (listBooksRequest.fields.map (·.name)).Nodup := by decide
  have houtput : (listBooksResponse.fields.map (·.name)).Nodup := by decide
  have hpages : PageShaped listBooksRequest listBooksResponse := by
    refine ⟨?_, ?_, ?_⟩
    all_goals simp [Message.HasSingle, listBooksRequest, listBooksResponse, booksField]
  have honly : listBooksResponse.OnlyRepeated booksField := by
    simp [Message.OnlyRepeated, listBooksResponse, booksField]
  have hnone : ¬PageShaped listBooksRequest listBooksRequest := by
    rintro ⟨_, _, hnext⟩
    simp [Message.HasSingle, listBooksRequest] at hnext
  have hstream (client server : Bool) := classify_by_fields (streamBooks client server) hinput hinput
  have hout : ∀ client server, (streamBooks client server).outputType ≠ operationType := by
    decide
  obtain ⟨_, hrules, hmore⟩ := classify_by_fields listBooks hinput houtput
  have hpaged : classify listBooks listBooksRequest listBooksResponse = .ok (.paged booksField) :=
    ((hrules (by decide)).1 booksField).mpr ⟨hpages, honly⟩
  refine ⟨hinput, houtput, hpaged, ?_, ?_, ?_, ?_, ?_, ?_⟩
  · rw [hmore laterRequest laterResponse [parentField] [totalField] ?_ ?_ ?_ ?_ rfl, hpaged]
    · exact ((List.reverse_perm _).cons _).trans (List.perm_append_singleton _ _).symm
    · decide
    · exact List.reverse_perm _
    · decide
  · obtain ⟨_, hboth, _⟩ := classify_by_fields (streamBooks true true) hinput houtput
    exact ((hboth (hout _ _)).1 booksField).mpr ⟨hpages, honly⟩
  · obtain ⟨_, _, _, hunary, _⟩ := (hstream false false).2.1 (hout _ _)
    exact hunary.mpr ⟨hnone, rfl, rfl⟩
  · obtain ⟨_, _, _, _, hserver, _⟩ := (hstream false true).2.1 (hout _ _)
    exact hserver.mpr ⟨hnone, rfl, rfl⟩
  · obtain ⟨_, _, _, _, _, hclient, _⟩ := (hstream true false).2.1 (hout _ _)
    exact hclient.mpr ⟨hnone, rfl, rfl⟩
  · obtain ⟨_, _, _, _, _, _, hbidi⟩ := (hstream true true).2.1 (hout _ _)
    exact hbidi.mpr ⟨hnone, rfl, rfl⟩

end CallShape

end ClientGen
