import ClientGen.Proofs.Catalog.Names
import ClientGen.Proofs.Schema.Values
import ClientGen.Schema.ToJson

namespace ClientGen.Schema

open Json

def FieldKind.WrittenAs (kind : FieldKind) : Json → Prop :=
  TextWrittenAs kind.name

def HttpVerb.WrittenAs : HttpVerb → Json → Prop
  | .get, json => TextWrittenAs "get" json
  | .put, json => TextWrittenAs "put" json
  | .post, json => TextWrittenAs "post" json
  | .delete, json => TextWrittenAs "delete" json
  | .patch, json => TextWrittenAs "patch" json
  | .custom kind, json => ∃ value, json = .object [(some "custom", value)] ∧ TextWrittenAs kind value

def Field.members (field : Field) : List Member := [
  ⟨"name", TextWrittenAs field.name, False⟩,
  ⟨"number", Int32WrittenAs field.number, field.number = 0⟩,
  ⟨"kind", field.kind.WrittenAs, False⟩,
  ⟨"repeated", BoolWrittenAs field.repeated, field.repeated = false⟩,
  ⟨"type_name", NullableWrittenAs TextWrittenAs field.typeName, field.typeName = none⟩]

def Field.WrittenAs (field : Field) : Json → Prop :=
  RecordWrittenAs field.members

def EnumType.members (enum : EnumType) : List Member := [
  ⟨"name", TextWrittenAs enum.name, enum.name = ""⟩,
  ⟨"values", ListWrittenAs TextWrittenAs enum.values, enum.values = []⟩]

def EnumType.WrittenAs (enum : EnumType) : Json → Prop :=
  RecordWrittenAs enum.members

mutual

def Message.WrittenAs : Message → Json → Prop
  | ⟨name, fields, messages, enums⟩ => RecordWrittenAs [
      ⟨"name", TextWrittenAs name, name = ""⟩,
      ⟨"fields", ListWrittenAs Field.WrittenAs fields, fields = []⟩,
      ⟨"nested_messages",
        fun json => ∃ items, json = .array items ∧ Message.EachWrittenAs messages items,
        messages = []⟩,
      ⟨"nested_enums", ListWrittenAs EnumType.WrittenAs enums, enums = []⟩]

def Message.EachWrittenAs : List Message → List Json → Prop
  | [], items => items = []
  | message :: messages, items =>
    ∃ item rest, message.WrittenAs item ∧ Message.EachWrittenAs messages rest ∧ items = item :: rest

end

def Message.members (message : Message) : List Member := [
  ⟨"name", TextWrittenAs message.name, message.name = ""⟩,
  ⟨"fields", ListWrittenAs Field.WrittenAs message.fields, message.fields = []⟩,
  ⟨"nested_messages", ListWrittenAs Message.WrittenAs message.messages, message.messages = []⟩,
  ⟨"nested_enums", ListWrittenAs EnumType.WrittenAs message.enums, message.enums = []⟩]

def HttpRule.members (rule : HttpRule) : List Member := [
  ⟨"verb", rule.verb.WrittenAs, False⟩,
  ⟨"path", TextWrittenAs rule.path, False⟩]

def HttpRule.WrittenAs (rule : HttpRule) : Json → Prop :=
  RecordWrittenAs rule.members

def Method.members (method : Method) : List Member := [
  ⟨"name", TextWrittenAs method.name, method.name = ""⟩,
  ⟨"input_type", TextWrittenAs method.inputType, method.inputType = ""⟩,
  ⟨"output_type", TextWrittenAs method.outputType, method.outputType = ""⟩,
  ⟨"client_streaming", BoolWrittenAs method.clientStreaming, method.clientStreaming = false⟩,
  ⟨"server_streaming", BoolWrittenAs method.serverStreaming, method.serverStreaming = false⟩,
  ⟨"http", NullableWrittenAs HttpRule.WrittenAs method.http, method.http = none⟩]

def Method.WrittenAs (method : Method) : Json → Prop :=
  RecordWrittenAs method.members

def Service.members (service : Service) : List Member := [
  ⟨"name", TextWrittenAs service.name, service.name = ""⟩,
  ⟨"methods", ListWrittenAs Method.WrittenAs service.methods, service.methods = []⟩,
  ⟨"default_host", NullableWrittenAs TextWrittenAs service.defaultHost, service.defaultHost = none⟩,
  ⟨"oauth_scopes", ListWrittenAs TextWrittenAs service.oauthScopes, service.oauthScopes = []⟩]

def Service.WrittenAs (service : Service) : Json → Prop :=
  RecordWrittenAs service.members

def Location.members (location : Location) : List Member := [
  ⟨"path", ListWrittenAs Int32WrittenAs location.path, location.path = []⟩,
  ⟨"leading_comments", NullableWrittenAs TextWrittenAs location.leadingComments,
    location.leadingComments = none⟩]

def Location.WrittenAs (location : Location) : Json → Prop :=
  RecordWrittenAs location.members

def File.members (file : File) : List Member := [
  ⟨"name", TextWrittenAs file.name, file.name = ""⟩,
  ⟨"package", TextWrittenAs file.package, file.package = ""⟩,
  ⟨"go_package", NullableWrittenAs TextWrittenAs file.goPackage, file.goPackage = none⟩,
  ⟨"messages", ListWrittenAs Message.WrittenAs file.messages, file.messages = []⟩,
  ⟨"enums", ListWrittenAs EnumType.WrittenAs file.enums, file.enums = []⟩,
  ⟨"services", ListWrittenAs Service.WrittenAs file.services, file.services = []⟩,
  ⟨"locations", ListWrittenAs Location.WrittenAs file.locations, file.locations = []⟩]

def File.WrittenAs (file : File) : Json → Prop :=
  RecordWrittenAs file.members

def Request.members (request : Request) : List Member := [
  ⟨"files", ListWrittenAs File.WrittenAs request.files, request.files = []⟩,
  ⟨"file_to_generate", ListWrittenAs TextWrittenAs request.filesToGenerate,
    request.filesToGenerate = []⟩,
  ⟨"parameter", NullableWrittenAs TextWrittenAs request.parameter, request.parameter = none⟩]

/-- A document that writes a request: its records in any order of members, with or without those
that hold their defaults, and with any members that a record does not have. -/
def Request.WrittenAs (request : Request) : Json → Prop :=
  RecordWrittenAs request.members

theorem reads_nullable_text (text : Option String) :
    Reads (Decoder.nullable Decoder.text) (NullableWrittenAs TextWrittenAs text) text :=
  reads_nullable reads_text (by simp [TextWrittenAs]) text

theorem reads_texts (texts : List String) :
    Reads (Decoder.list Decoder.text) (ListWrittenAs TextWrittenAs texts) texts :=
  reads_list fun text _ => reads_text text

theorem FieldKind.reads (kind : FieldKind) : Reads FieldKind.decode kind.WrittenAs kind := by
  rintro _ budget rfl _
  cases kind <;> rfl

theorem HttpVerb.reads (verb : HttpVerb) : Reads HttpVerb.decode verb.WrittenAs verb := by
  intro json budget hjson hdepth
  cases verb with
  | get | put | post | delete | patch =>
    cases hjson
    rfl
  | custom kind =>
    obtain ⟨_, rfl, rfl⟩ := hjson
    rw [depth] at hdepth
    obtain ⟨rest, rfl⟩ := Nat.exists_eq_add_one_of_ne_zero (show budget ≠ 0 by omega)
    rfl

theorem Field.reads (field : Field) : Reads Field.decode field.WrittenAs field := by
  intro json budget hjson hdepth
  obtain ⟨rest, slots, rfl, hslots, hfound⟩ := hjson.slots? (by simp [members]) hdepth
  obtain _ | ⟨hname, _ | ⟨hnumber, _ | ⟨hkind, _ | ⟨hrepeated, _ | ⟨htypeName, _ | _⟩⟩⟩⟩⟩ := hfound
  simp only [members, List.map_cons, List.map_nil] at hslots
  simp [decode, hslots, required_of_found (reads_text _) hname,
    withDefault_of_found (reads_int32 _) hnumber, required_of_found (FieldKind.reads _) hkind,
    withDefault_of_found (reads_bool _) hrepeated,
    withDefault_of_found (reads_nullable_text _) htypeName]

theorem EnumType.reads (enum : EnumType) : Reads EnumType.decode enum.WrittenAs enum := by
  intro json budget hjson hdepth
  obtain ⟨rest, slots, rfl, hslots, hfound⟩ := hjson.slots? (by simp [members]) hdepth
  obtain _ | ⟨hname, _ | ⟨hvalues, _ | _⟩⟩ := hfound
  simp only [members, List.map_cons, List.map_nil] at hslots
  simp [decode, hslots, withDefault_of_found (reads_text _) hname,
    withDefault_of_found (reads_texts _) hvalues]

theorem Message.eachWrittenAs_iff {messages : List Message} {items : List Json} :
    Message.EachWrittenAs messages items ↔ List.Forall₂ Message.WrittenAs messages items := by
  induction messages generalizing items with
  | nil => simp [EachWrittenAs]
  | cons message messages ih => simp only [EachWrittenAs, ih, List.forall₂_cons_left_iff]

theorem Message.writtenAs_eq (message : Message) :
    message.WrittenAs = RecordWrittenAs message.members := by
  cases message
  funext json
  rw [Message.WrittenAs]
  simp only [eachWrittenAs_iff]
  rfl

theorem Message.decodeList_eq : Message.decodeList = Decoder.list Message.decode := by
  funext budget json
  exact (decodeList.eq_def budget json).trans (Decoder.list.eq_def decode budget json).symm

theorem Message.reads (message : Message) : Reads Message.decode message.WrittenAs message := by
  induction message using Message.nesting with
  | step message ih =>
    intro json budget hjson hdepth
    rw [writtenAs_eq] at hjson
    obtain ⟨rest, slots, rfl, hslots, hfound⟩ := hjson.slots? (by simp [members]) hdepth
    obtain _ | ⟨hname, _ | ⟨hfields, _ | ⟨hmessages, _ | ⟨henums, _ | _⟩⟩⟩⟩ := hfound
    simp only [members, List.map_cons, List.map_nil] at hslots
    have hnested := withDefault_of_found (reads_list ih) hmessages
    simp only [decode, hslots, Option.bind_eq_bind, Option.bind_some,
      withDefault_of_found (reads_text _) hname,
      withDefault_of_found (reads_list fun field _ => Field.reads field) hfields,
      withDefault_of_found (reads_list fun enum _ => EnumType.reads enum) henums]
    split
    · cases message
      cases hnested
      rfl
    · rw [Decoder.withDefault, ← decodeList_eq] at hnested
      rw [hnested]
      cases message
      rfl

theorem HttpRule.reads (rule : HttpRule) : Reads HttpRule.decode rule.WrittenAs rule := by
  intro json budget hjson hdepth
  obtain ⟨rest, slots, rfl, hslots, hfound⟩ := hjson.slots? (by simp [members]) hdepth
  obtain _ | ⟨hverb, _ | ⟨hpath, _ | _⟩⟩ := hfound
  simp only [members, List.map_cons, List.map_nil] at hslots
  simp [decode, hslots, required_of_found (HttpVerb.reads _) hverb,
    required_of_found (reads_text _) hpath]

theorem Method.reads (method : Method) : Reads Method.decode method.WrittenAs method := by
  intro json budget hjson hdepth
  obtain ⟨rest, slots, rfl, hslots, hfound⟩ := hjson.slots? (by simp [members]) hdepth
  obtain _ | ⟨hname, _ | ⟨hinput, _ | ⟨houtput, _ | ⟨hclient, _ | ⟨hserver, _ | ⟨hhttp, _ | _⟩⟩⟩⟩⟩⟩ :=
    hfound
  have hnull (rule : HttpRule) : ¬rule.WrittenAs .null := by rintro ⟨⟩
  simp only [members, List.map_cons, List.map_nil] at hslots
  simp [decode, hslots, withDefault_of_found (reads_text _) hname,
    withDefault_of_found (reads_text _) hinput, withDefault_of_found (reads_text _) houtput,
    withDefault_of_found (reads_bool _) hclient, withDefault_of_found (reads_bool _) hserver,
    withDefault_of_found (reads_nullable HttpRule.reads hnull _) hhttp]

theorem Service.reads (service : Service) : Reads Service.decode service.WrittenAs service := by
  intro json budget hjson hdepth
  obtain ⟨rest, slots, rfl, hslots, hfound⟩ := hjson.slots? (by simp [members]) hdepth
  obtain _ | ⟨hname, _ | ⟨hmethods, _ | ⟨hhost, _ | ⟨hscopes, _ | _⟩⟩⟩⟩ := hfound
  simp only [members, List.map_cons, List.map_nil] at hslots
  simp [decode, hslots, withDefault_of_found (reads_text _) hname,
    withDefault_of_found (reads_list fun method _ => Method.reads method) hmethods,
    withDefault_of_found (reads_nullable_text _) hhost,
    withDefault_of_found (reads_texts _) hscopes]

theorem Location.reads (location : Location) : Reads Location.decode location.WrittenAs location := by
  intro json budget hjson hdepth
  obtain ⟨rest, slots, rfl, hslots, hfound⟩ := hjson.slots? (by simp [members]) hdepth
  obtain _ | ⟨hpath, _ | ⟨hcomments, _ | _⟩⟩ := hfound
  simp only [members, List.map_cons, List.map_nil] at hslots
  simp [decode, hslots, withDefault_of_found (reads_list fun n _ => reads_int32 n) hpath,
    withDefault_of_found (reads_nullable_text _) hcomments]

theorem File.reads (file : File) : Reads File.decode file.WrittenAs file := by
  intro json budget hjson hdepth
  obtain ⟨rest, slots, rfl, hslots, hfound⟩ := hjson.slots? (by simp [members]) hdepth
  obtain _ | ⟨hname, _ | ⟨hpackage, _ | ⟨hgoPackage, _ | ⟨hmessages, _ | ⟨henums, _ | ⟨hservices, _ |
    ⟨hlocations, _ | _⟩⟩⟩⟩⟩⟩⟩ := hfound
  simp only [members, List.map_cons, List.map_nil] at hslots
  simp [decode, hslots, withDefault_of_found (reads_text _) hname,
    withDefault_of_found (reads_text _) hpackage,
    withDefault_of_found (reads_nullable_text _) hgoPackage,
    withDefault_of_found (reads_list fun message _ => Message.reads message) hmessages,
    withDefault_of_found (reads_list fun enum _ => EnumType.reads enum) henums,
    withDefault_of_found (reads_list fun service _ => Service.reads service) hservices,
    withDefault_of_found (reads_list fun location _ => Location.reads location) hlocations]

theorem Request.reads (request : Request) : Reads Request.decode request.WrittenAs request := by
  intro json budget hjson hdepth
  obtain ⟨rest, slots, rfl, hslots, hfound⟩ := hjson.slots? (by simp [members]) hdepth
  obtain _ | ⟨hfiles, _ | ⟨hnames, _ | ⟨hparameter, _ | _⟩⟩⟩ := hfound
  simp only [members, List.map_cons, List.map_nil] at hslots
  simp [decode, hslots, withDefault_of_found (reads_list fun file _ => File.reads file) hfiles,
    withDefault_of_found (reads_texts _) hnames,
    withDefault_of_found (reads_nullable_text _) hparameter]

end ClientGen.Schema
