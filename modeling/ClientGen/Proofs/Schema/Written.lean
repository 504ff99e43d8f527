import ClientGen.Proofs.Json.Writing
import ClientGen.Proofs.Schema.Requests

namespace ClientGen

open Json

namespace Json

theorem recordWrittenAs_record {members : List Member} {given : List (String × Json)}
    (h : Gives members given) : RecordWrittenAs members (.record given) :=
  @RecordWrittenAs.object members given [] _ h (by simp) (by rw [List.append_nil])

attribute [simp] Integral.null Integral.bool

@[simp] theorem integral_ofString (text : String) : (ofString text).Integral :=
  .string _

@[simp] theorem integral_ofOption {α : Type} {encode : α → Json}
    (h : ∀ value, (encode value).Integral)
    (value : Option α) : (ofOption encode value).Integral := by
  cases value with
  | none => exact .null
  | some value => exact h value

@[simp] theorem integral_ofList {α : Type} {encode : α → Json} {values : List α}
    (h : ∀ value ∈ values, (encode value).Integral) : (ofList encode values).Integral :=
  .array (List.forall_mem_map.mpr h)

@[simp] theorem integral_record {members : List (String × Json)}
    (h : ∀ member ∈ members, member.2.Integral) : (record members).Integral :=
  .object (List.forall_mem_map.mpr h)

end Json

namespace Schema

variable {α : Type} {W : α → Json → Prop} {encode : α → Json}

theorem nullableWrittenAs_ofOption (h : ∀ value, W value (encode value)) (value : Option α) :
    NullableWrittenAs W value (.ofOption encode value) := by
  cases value with
  | none => rfl
  | some value => exact h value

theorem listWrittenAs_ofList {values : List α} (h : ∀ value ∈ values, W value (encode value)) :
    ListWrittenAs W values (.ofList encode values) :=
  ⟨_, rfl, List.forall₂_map_right_iff.mpr (List.forall₂_same.mpr h)⟩

theorem int32WrittenAs_ofInt32 (n : Int32) : Int32WrittenAs n (ofInt32 n) := by
  rw [Int32WrittenAs, ofInt32]
  cases n.toInt with
  | ofNat m => rfl
  | negSucc m => rw [decide_eq_true (Int.negSucc_lt_zero m), Int.natAbs_negSucc, ofInt]

theorem textWrittenAs_ofString (text : String) : TextWrittenAs text (.ofString text) :=
  rfl

theorem textsWrittenAs_ofList (texts : List String) :
    ListWrittenAs TextWrittenAs texts (.ofList .ofString texts) :=
  listWrittenAs_ofList fun text _ => textWrittenAs_ofString text

theorem textWrittenAs_ofOption (text : Option String) :
    NullableWrittenAs TextWrittenAs text (.ofOption .ofString text) :=
  nullableWrittenAs_ofOption textWrittenAs_ofString text

@[simp] theorem integral_ofInt32 (n : Int32) : (ofInt32 n).Integral := by
  rw [ofInt32]
  cases n.toInt <;> exact .number _ _

theorem Field.writtenAs_toJson (field : Field) : field.WrittenAs field.toJson :=
  recordWrittenAs_record (.given rfl (.given (int32WrittenAs_ofInt32 _) (.given rfl (.given rfl
    (.given (textWrittenAs_ofOption _) .nil)))))

theorem EnumType.writtenAs_toJson (enum : EnumType) : enum.WrittenAs enum.toJson :=
  recordWrittenAs_record (.given rfl (.given (textsWrittenAs_ofList _) .nil))

theorem Message.listToJson_eq_map (messages : List Message) :
    Message.listToJson messages = messages.map Message.toJson := by
  induction messages with
  | nil => rfl
  | cons message messages ih => rw [listToJson, ih, List.map_cons]

theorem Message.writtenAs_toJson (message : Message) : message.WrittenAs message.toJson := by
  induction message using Message.nesting with
  | step message ih =>
    obtain ⟨name, fields, messages, enums⟩ := message
    rw [writtenAs_eq, toJson, listToJson_eq_map]
    exact recordWrittenAs_record (.given rfl (.given
      (listWrittenAs_ofList fun field _ => field.writtenAs_toJson) (.given (listWrittenAs_ofList ih)
        (.given (listWrittenAs_ofList fun enum _ => enum.writtenAs_toJson) .nil))))

theorem HttpVerb.writtenAs_toJson (verb : HttpVerb) : verb.WrittenAs verb.toJson := by
  cases verb with
  | get | put | post | delete | patch => rfl
  | custom kind => exact ⟨_, rfl, rfl⟩

theorem HttpRule.writtenAs_toJson (rule : HttpRule) : rule.WrittenAs rule.toJson :=
  recordWrittenAs_record (.given rule.verb.writtenAs_toJson (.given rfl .nil))

theorem Method.writtenAs_toJson (method : Method) : method.WrittenAs method.toJson :=
  recordWrittenAs_record (.given rfl (.given rfl (.given rfl (.given rfl (.given rfl
    (.given (nullableWrittenAs_ofOption HttpRule.writtenAs_toJson _) .nil))))))

theorem Service.writtenAs_toJson (service : Service) : service.WrittenAs service.toJson :=
  recordWrittenAs_record (.given rfl (.given
    (listWrittenAs_ofList fun method _ => method.writtenAs_toJson)
    (.given (textWrittenAs_ofOption _) (.given (textsWrittenAs_ofList _) .nil))))

theorem Location.writtenAs_toJson (location : Location) : location.WrittenAs location.toJson :=
  recordWrittenAs_record (.given (listWrittenAs_ofList fun n _ => int32WrittenAs_ofInt32 n)
    (.given (textWrittenAs_ofOption _) .nil))

theorem File.writtenAs_toJson (file : File) : file.WrittenAs file.toJson := by
  rw [toJson, Message.listToJson_eq_map]
  exact recordWrittenAs_record (.given rfl (.given rfl (.given (textWrittenAs_ofOption _) (.given
    (listWrittenAs_ofList fun message _ => message.writtenAs_toJson) (.given
      (listWrittenAs_ofList fun enum _ => enum.writtenAs_toJson) (.given
        (listWrittenAs_ofList fun service _ => service.writtenAs_toJson) (.given
          (listWrittenAs_ofList fun location _ => location.writtenAs_toJson) .nil)))))))

/-- The canonical document of a request is one of those that write it. -/
theorem Request.writtenAs_toJson (request : Request) : request.WrittenAs request.toJson :=
  recordWrittenAs_record (.given (listWrittenAs_ofList fun file _ => file.writtenAs_toJson)
    (.given (textsWrittenAs_ofList _) (.given (textWrittenAs_ofOption _) .nil)))

@[simp] theorem Field.integral_toJson (field : Field) : field.toJson.Integral := by
  simp [toJson]

@[simp] theorem EnumType.integral_toJson (enum : EnumType) : enum.toJson.Integral := by
  simp [toJson]

@[simp] theorem Message.integral_toJson (message : Message) : message.toJson.Integral := by
  induction message using Message.nesting with
  | step message ih =>
    obtain ⟨name, fields, messages, enums⟩ := message
    have hmessages : (Json.array (messages.map Message.toJson)).Integral := integral_ofList ih
    simp [toJson, listToJson_eq_map, hmessages]

@[simp] theorem HttpVerb.integral_toJson (verb : HttpVerb) : verb.toJson.Integral := by
  cases verb <;> simp [toJson]

@[simp] theorem HttpRule.integral_toJson (rule : HttpRule) : rule.toJson.Integral := by
  simp [toJson]

@[simp] theorem Method.integral_toJson (method : Method) : method.toJson.Integral := by
  simp [toJson]

@[simp] theorem Service.integral_toJson (service : Service) : service.toJson.Integral := by
  simp [toJson]

@[simp] theorem Location.integral_toJson (location : Location) : location.toJson.Integral := by
  simp [toJson]

@[simp] theorem File.integral_toJson (file : File) : file.toJson.Integral := by
  have hmessages : (Json.array (file.messages.map Message.toJson)).Integral :=
    integral_ofList fun message _ => message.integral_toJson
  simp [toJson, Message.listToJson_eq_map, hmessages]

theorem Request.integral_toJson (request : Request) : request.toJson.Integral := by
  simp [toJson]

end Schema

end ClientGen
