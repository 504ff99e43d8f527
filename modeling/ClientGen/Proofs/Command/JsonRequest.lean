import ClientGen.Command.Basic
import ClientGen.Proofs.Schema.Written
import ClientGen.Proofs.Wire.Primitives

namespace ClientGen.Command

open Schema Json

/-- What a decoder reads from documents it reads from their texts. -/
theorem ofText?_of_spells {α : Type} {decode : Decoder α} {Writes : Json → Prop} {value : α}
    {json : Json} {text : String} (h : Reads decode Writes value) (hjson : Writes json)
    (hspells : Spells text.toList json) (hdepth : json.depth ≤ 127) :
    ofText? decode text = some value := by
  rw [ofText?, read?_of_spells hspells]
  exact h json depthLimit hjson hdepth

theorem spells_toJson (request : Request) :
    Spells (String.ofList request.toJson.write).toList request.toJson := by
  rw [String.toList_ofList]
  exact spells_write request.integral_toJson

theorem requestOfJson_toUTF8 {text : String} {request : Request}
    (h : ofText? Request.decode text = some request) :
    requestOfJson (some text.toUTF8.toList) = .ok request := by
  rw [requestOfJson, Option.bind_some, Wire.utf8?_toUTF8]
  simp only [h]

/-- A request is read from every text that writes it and does not nest too many containers, whatever
the order of members, the defaults left out and the members added; in particular from its own
text. -/
theorem request_read_from_every_text (request : Request) :
    (∀ json text, request.WrittenAs json → Spells text.toList json → json.depth ≤ 127 →
      ofText? Request.decode text = some request ∧
        requestOfJson (some text.toUTF8.toList) = .ok request) ∧
      (request.toJson.depth ≤ 127 →
        ofText? Request.decode (.ofList request.toJson.write) = some request ∧
          requestOfJson (some (String.ofList request.toJson.write).toUTF8.toList) = .ok request) := by
  have hread {json : Json} {text : String} (hjson : request.WrittenAs json)
      (hspells : Spells text.toList json) (hdepth : json.depth ≤ 127) :
      ofText? Request.decode text = some request :=
    ofText?_of_spells request.reads hjson hspells hdepth
  constructor
  · intro json text hjson hspells hdepth
    have htext := hread hjson hspells hdepth
    exact ⟨htext, requestOfJson_toUTF8 htext⟩
  · intro hdepth
    have htext := hread request.writtenAs_toJson (spells_toJson request) hdepth
    exact ⟨htext, requestOfJson_toUTF8 htext⟩

def statusRule : HttpRule := ⟨.custom "HEAD", "/v1/status"⟩

def statusMethod : Method := { http := some statusRule }

def statusRequest : Request where
  files := [{ services := [{ methods := [statusMethod] }] }]

def statusRuleDocument (others : List (String × Json)) : Json :=
  .record [("path", .ofString "/v1/status"), ("note", .null),
    ("verb", .record (("custom", .ofString "HEAD") :: others))]

def statusDocument (others : List (String × Json)) : Json :=
  .record [("comment", .array [.ofNat 1, .null]), ("files", .array [.record [("services",
    .array [.record [("methods", .array [.record [("http", statusRuleDocument others)]])]])]])]

theorem statusRule_writtenAs : statusRule.WrittenAs (statusRuleDocument []) := by
  refine @RecordWrittenAs.object _ [("verb", _), ("path", _)] [("note", .null)] _
    (.given ⟨_, rfl, rfl⟩ (.given rfl .nil)) (by simp [HttpRule.members]) ?_
  exact @List.perm_append_comm _ [_, _] [_]

theorem statusRequest_writtenAs : statusRequest.WrittenAs (statusDocument []) := by
  have hmethod : statusMethod.WrittenAs (.record [("http", statusRuleDocument [])]) :=
    recordWrittenAs_record (.omitted rfl (.omitted rfl (.omitted rfl (.omitted rfl (.omitted rfl
      (.given statusRule_writtenAs .nil))))))
  have hservice : Service.WrittenAs { methods := [statusMethod] } (.record [("methods", _)]) :=
    recordWrittenAs_record (.omitted rfl (.given ⟨_, rfl, .cons hmethod .nil⟩
      (.omitted rfl (.omitted rfl .nil))))
  have hfile : File.WrittenAs { services := [{ methods := [statusMethod] }] }
      (.record [("services", _)]) :=
    recordWrittenAs_record (.omitted rfl (.omitted rfl (.omitted rfl (.omitted rfl (.omitted rfl
      (.given ⟨_, rfl, .cons hservice .nil⟩ (.omitted rfl .nil)))))))
  refine @RecordWrittenAs.object _ [("files", _)] [("comment", .array [.ofNat 1, .null])] _
    (.given ⟨_, rfl, .cons hfile .nil⟩ (.omitted rfl (.omitted rfl .nil)))
    (by simp [Request.members]) ?_
  exact .swap _ _ _

theorem statusText_spells :
    Spells (String.ofList (statusDocument []).write).toList (statusDocument []) := by
  have hrule : (statusRuleDocument []).Integral :=
    integral_record (by simp [integral_ofString, integral_record, Integral.null])
  have hmethod : (record [("http", statusRuleDocument [])]).Integral :=
    integral_record (by simp [hrule])
  have hone {json : Json} (key : String) (h : json.Integral) :
      (record [(key, .array [json])]).Integral :=
    integral_record (by simp [Integral.array, h])
  have hfile := hone "services" (hone "methods" hmethod)
  have hdocument : (statusDocument []).Integral :=
    integral_record (by simp [Integral.array, Integral.null, Integral.number, ofNat, hfile])
  rw [String.toList_ofList]
  exact spells_write hdocument

theorem request_read_from_status_text :
    ofText? Request.decode (.ofList (statusDocument []).write) = some statusRequest ∧
      ofText? Request.decode (.ofList statusRequest.toJson.write) = some statusRequest := by
  obtain ⟨hevery, hown⟩ := request_read_from_every_text statusRequest
  exact ⟨(hevery _ _ statusRequest_writtenAs statusText_spells (by decide)).1, (hown (by decide)).1⟩

/-- Beside the kind of a verb no other member is ignored. -/
theorem verb_takes_no_other_member :
    ofText? Request.decode (.ofList (statusDocument []).write) = some statusRequest ∧
      ofText? Request.decode (.ofList (statusDocument [("note", .null)]).write) = none := by
  constructor
  · exact ofText?_of_spells statusRequest.reads statusRequest_writtenAs statusText_spells (by decide)
  · rw [ofText?, String.toList_ofList]
    decide +kernel

end ClientGen.Command
