import ClientGen.Proofs.Except
import ClientGen.Run

namespace ClientGen

open Schema

theorem Catalog.goType_eq_ok_iff {catalog : Catalog} {fullName : String} {type : GoType} :
    catalog.goType fullName = .ok type ↔
      ∃ file, catalog.owningFile fullName = .ok file ∧ ClientImport.ofFile file = .ok type.spec ∧
        GoType.nameIn? file fullName = some type.name := by
  simp only [Catalog.goType, Except.bind_eq_ok_iff]
  constructor
  · rintro ⟨file, hf, spec, hs, h⟩
    cases hn : GoType.nameIn? file fullName with
    | none =>
      rw [hn] at h
      cases h
    | some name =>
      rw [hn] at h
      cases h
      exact ⟨file, hf, hs, hn⟩
  · rintro ⟨file, hf, hs, hn⟩
    refine ⟨file, hf, type.spec, hs, ?_⟩
    rw [hn]
    rfl

theorem Catalog.goType_eq_error_iff {catalog : Catalog} {fullName : String} {fault : Fault} :
    catalog.goType fullName = .error fault ↔
      catalog.owningFile fullName = .error fault ∨
        ∃ file, catalog.owningFile fullName = .ok file ∧
          (ClientImport.ofFile file = .error fault ∨
            ∃ spec, ClientImport.ofFile file = .ok spec ∧ GoType.nameIn? file fullName = none ∧
              .outsidePackage fullName file.package = fault) := by
  simp only [Catalog.goType, Except.bind_eq_error_iff]
  refine or_congr_right (exists_congr fun file => and_congr_right fun _ =>
    or_congr_right (exists_congr fun spec => and_congr_right fun _ => ?_))
  cases GoType.nameIn? file fullName <;> simp [pure, Except.pure, throw, throwThe,
    MonadExceptOf.throw]

theorem PageElement.ofField_eq_ok_message_iff {field : Field} {typeName : String} :
    ofField field = .ok (.message typeName) ↔
      field.kind = .message ∧ field.typeName = some typeName := by
  unfold ofField
  cases hk : field.kind <;> cases ht : field.typeName <;> simp [FieldKind.scalar?]

theorem PageElement.kind_ne_message_of_ofField {field : Field} {goType stem : String}
    (h : ofField field = .ok (.scalar goType stem)) : field.kind ≠ .message := by
  intro hk
  unfold ofField at h
  cases ht : field.typeName <;> simp [hk, ht, FieldKind.scalar?] at h

theorem Element.resolve_message_eq_ok_iff {catalog : Catalog} {typeName : String}
    {element : Element} : Element.resolve catalog (.message typeName) = .ok element ↔
      ∃ type, catalog.goType typeName = .ok type ∧
        element = ⟨PageElement.iteratorName (.message typeName), "*" ++ type.render,
          [type.spec]⟩ := by
  rw [Element.resolve, Except.bind_eq_ok_iff]
  constructor
  · rintro ⟨type, ht, h⟩
    cases h
    exact ⟨type, ht, rfl⟩
  · rintro ⟨type, ht, rfl⟩
    exact ⟨type, ht, rfl⟩

theorem Element.resolve_iterator {catalog : Catalog} {page : PageElement} {element : Element}
    (h : Element.resolve catalog page = .ok element) : element.iterator = page.iteratorName := by
  cases page with
  | message typeName =>
    obtain ⟨_, _, rfl⟩ := Element.resolve_message_eq_ok_iff.mp h
    rfl
  | scalar goType stem =>
    cases h
    rfl

namespace Exchange

inductive Resolved (catalog : Catalog) (method : Method) : CallShape → Exchange → Prop
  | unary {request response : GoType} (hreq : catalog.goType method.inputType = .ok request)
      (hne : method.outputType ≠ emptyType) (hres : catalog.goType method.outputType = .ok response) :
      Resolved catalog method .unary (.unary request response)
  | acknowledged {request : GoType} (hreq : catalog.goType method.inputType = .ok request)
      (he : method.outputType = emptyType) : Resolved catalog method .unary (.acknowledged request)
  | longRunning {request operation : GoType} (hreq : catalog.goType method.inputType = .ok request)
      (hop : catalog.goType operationType = .ok operation) :
      Resolved catalog method .longRunning (.longRunning request operation)
  | serverStream {request : GoType} (hreq : catalog.goType method.inputType = .ok request) :
      Resolved catalog method .serverStreaming (.serverStream request)
  | clientStream : Resolved catalog method .clientStreaming .clientStream
  | bidiStream : Resolved catalog method .bidiStreaming .clientStream
  | paged {field : Field} {page : PageElement} {request response : GoType} {element : Element}
      (hpage : PageElement.ofField field = .ok page)
      (hreq : catalog.goType method.inputType = .ok request)
      (hres : catalog.goType method.outputType = .ok response)
      (helem : Element.resolve catalog page = .ok element) :
      Resolved catalog method (.paged field) (.paged request response element field.name)

theorem resolved_of_resolve {catalog : Catalog} {method : Method} {shape : CallShape}
    {exchange : Exchange} (h : resolve catalog method shape = .ok exchange) :
    Resolved catalog method shape exchange := by
  cases shape with
  | unary =>
    obtain ⟨request, hreq, h⟩ := Except.bind_eq_ok_iff.mp h
    split at h
    · rename_i he
      cases h
      exact .acknowledged hreq he
    · rename_i hne
      obtain ⟨response, hres, h⟩ := Except.bind_eq_ok_iff.mp h
      cases h
      exact .unary hreq hne hres
  | longRunning =>
    obtain ⟨request, hreq, h⟩ := Except.bind_eq_ok_iff.mp h
    obtain ⟨operation, hop, h⟩ := Except.bind_eq_ok_iff.mp h
    cases h
    exact .longRunning hreq hop
  | serverStreaming =>
    obtain ⟨request, hreq, h⟩ := Except.bind_eq_ok_iff.mp h
    cases h
    exact .serverStream hreq
  | clientStreaming =>
    cases h
    exact .clientStream
  | bidiStreaming =>
    cases h
    exact .bidiStream
  | paged field =>
    obtain ⟨page, hpage, h⟩ := Except.bind_eq_ok_iff.mp h
    obtain ⟨request, hreq, h⟩ := Except.bind_eq_ok_iff.mp h
    obtain ⟨response, hres, h⟩ := Except.bind_eq_ok_iff.mp h
    obtain ⟨element, helem, h⟩ := Except.bind_eq_ok_iff.mp h
    cases h
    exact .paged hpage hreq hres helem

theorem resolve_of_resolved {catalog : Catalog} {method : Method} {shape : CallShape}
    {exchange : Exchange} (h : Resolved catalog method shape exchange) :
    resolve catalog method shape = .ok exchange := by
  cases h with
  | unary hreq hne hres =>
    refine Except.bind_eq_ok_iff.mpr ⟨_, hreq, ?_⟩
    rw [if_neg hne]
    exact Except.bind_eq_ok_iff.mpr ⟨_, hres, rfl⟩
  | acknowledged hreq he =>
    refine Except.bind_eq_ok_iff.mpr ⟨_, hreq, ?_⟩
    rw [if_pos he]
    rfl
  | longRunning hreq hop =>
    exact Except.bind_eq_ok_iff.mpr ⟨_, hreq, Except.bind_eq_ok_iff.mpr ⟨_, hop, rfl⟩⟩
  | serverStream hreq => exact Except.bind_eq_ok_iff.mpr ⟨_, hreq, rfl⟩
  | clientStream | bidiStream => rfl
  | paged hpage hreq hres helem =>
    refine Except.bind_eq_ok_iff.mpr ⟨_, hpage, Except.bind_eq_ok_iff.mpr ⟨_, hreq, ?_⟩⟩
    exact Except.bind_eq_ok_iff.mpr ⟨_, hres, Except.bind_eq_ok_iff.mpr ⟨_, helem, rfl⟩⟩

theorem resolve_eq_ok_iff {catalog : Catalog} {method : Method} {shape : CallShape}
    {exchange : Exchange} :
    resolve catalog method shape = .ok exchange ↔ Resolved catalog method shape exchange :=
  ⟨resolved_of_resolve, resolve_of_resolved⟩

end Exchange

namespace Client

structure ResolvedCall (catalog : Catalog) (serviceName : String) (method : Method) (call : Call) :
    Prop where
  method_eq : call.method = method
  doc_eq : call.doc = catalog.comment? (memberName serviceName method.name)
  exchange_eq : ∃ shape, shapeOf catalog method = .ok shape ∧
    Exchange.resolve catalog method shape = .ok call.exchange

theorem shapeOf_eq_ok_iff {catalog : Catalog} {method : Method} {shape : CallShape} :
    shapeOf catalog method = .ok shape ↔
      ∃ input output, catalog.message method.inputType = .ok input ∧
        catalog.message method.outputType = .ok output ∧
        CallShape.classify method input output = .ok shape := by
  simp only [shapeOf, Except.bind_eq_ok_iff]
  constructor
  · rintro ⟨input, hi, output, ho, hs⟩
    exact ⟨input, output, hi, ho, hs⟩
  · rintro ⟨input, output, hi, ho, hs⟩
    exact ⟨input, hi, output, ho, hs⟩

theorem resolveCall_eq_ok_iff {catalog : Catalog} {serviceName : String} {method : Method}
    {shape : CallShape} {call : Call} :
    resolveCall catalog serviceName method shape = .ok call ↔
      call.method = method ∧ call.doc = catalog.comment? (memberName serviceName method.name) ∧
        Exchange.resolve catalog method shape = .ok call.exchange := by
  rw [resolveCall, Except.bind_eq_ok_iff]
  constructor
  · rintro ⟨exchange, he, h⟩
    cases h
    exact ⟨rfl, rfl, he⟩
  · rintro ⟨rfl, hd, he⟩
    refine ⟨call.exchange, he, ?_⟩
    rw [← hd]
    rfl

/-- The shapes of all methods are found before the first call is resolved. In the end each call is
resolved from its own method. -/
theorem forall₂_resolvedCall_iff {catalog : Catalog} {serviceName : String} {methods : List Method}
    {calls : List Call} :
    (∃ shaped, (methods.mapM fun method => return (method, ← shapeOf catalog method)) = .ok shaped ∧
        (shaped.mapM fun (method, shape) => resolveCall catalog serviceName method shape) =
          .ok calls) ↔
      List.Forall₂ (ResolvedCall catalog serviceName) methods calls := by
  simp only [Except.mapM_eq_ok_iff, Except.exists_forall₂_iff, Except.bind_eq_ok_iff]
  refine Iff.of_eq (congrArg (List.Forall₂ · methods calls) (funext₂ fun method call => propext ?_))
  constructor
  · rintro ⟨_, ⟨shape, hshape, h⟩, hcall⟩
    cases h
    obtain ⟨hm, hd, he⟩ := resolveCall_eq_ok_iff.mp hcall
    exact ⟨hm, hd, shape, hshape, he⟩
  · rintro ⟨hm, hd, shape, hshape, he⟩
    exact ⟨_, ⟨shape, hshape, rfl⟩, resolveCall_eq_ok_iff.mpr ⟨hm, hd, he⟩⟩

structure Resolved (catalog : Catalog) (options : Options) (file : File) (service : Service)
    (client : Client) : Prop where
  service_eq : client.service = service
  fullName_eq : client.fullName = service.fullName file
  stem_eq : client.stem = Naming.clientStem service.name options.pkgName
  host_eq : service.defaultHost = some client.host
  stub_eq : ClientImport.ofFile file = .ok client.stub
  doc_eq : client.doc = catalog.comment? (service.fullName file)
  calls_eq : List.Forall₂ (ResolvedCall catalog (service.fullName file)) service.methods client.calls

variable {catalog : Catalog} {options : Options} {file : File} {service : Service} {client : Client}

theorem resolve_eq_ok_iff :
    resolve catalog options file service = .ok client ↔
      Resolved catalog options file service client := by
  simp only [resolve, Except.bind_eq_ok_iff]
  constructor
  · rintro ⟨shaped, hshaped, h⟩
    cases hh : service.defaultHost with
    | none =>
      rw [hh] at h
      cases h
    | some host =>
      rw [hh] at h
      simp only [Except.bind_eq_ok_iff] at h
      obtain ⟨stub, hstub, calls, hcalls, h⟩ := h
      cases h
      exact ⟨rfl, rfl, rfl, hh, hstub, rfl, forall₂_resolvedCall_iff.mp ⟨shaped, hshaped, hcalls⟩⟩
  · rintro ⟨rfl, hfull, hstem, hhost, hstub, hdoc, hcalls⟩
    obtain ⟨shaped, hshaped, hcalls⟩ := forall₂_resolvedCall_iff.mpr hcalls
    refine ⟨shaped, hshaped, ?_⟩
    rw [hhost]
    simp only [Except.bind_eq_ok_iff]
    refine ⟨client.stub, hstub, client.calls, hcalls, ?_⟩
    rw [← hdoc, ← hstem, ← hfull]
    rfl

theorem Resolved.exists_method (h : Resolved catalog options file service client) {call : Call}
    (hc : call ∈ client.calls) :
    ∃ method ∈ service.methods, ResolvedCall catalog (service.fullName file) method call :=
  Except.exists_mem_of_forall₂ h.calls_eq hc

end Client

namespace Run

open Client

variable {catalog : Catalog} {options : Options} {name : String} {names : List String}

theorem clientsOf_eq_ok_iff {group : List Client} :
    clientsOf catalog options name = .ok group ↔
      ∃ file, catalog.file? name = some file ∧
        List.Forall₂ (Resolved catalog options file) file.services group := by
  unfold clientsOf
  cases hf : catalog.file? name with
  | none => simp [throw, throwThe, MonadExceptOf.throw]
  | some file => simp [Except.mapM_eq_ok_iff, resolve_eq_ok_iff]

/-- The clients of a file, or the error of a run that fails with it. -/
def outcome (catalog : Catalog) (options : Options) (name : String) : Except String (List Client) :=
  (clientsOf catalog options name).mapError fun fault => s!"{name}: {fault.message}"

theorem clients_eq : Run.clients catalog options names =
    List.flatten <$> names.mapM (outcome catalog options) := rfl

theorem clients_eq_ok_iff {clients : List Client} :
    Run.clients catalog options names = .ok clients ↔
      ∃ groups, List.Forall₂ (fun name group =>
        clientsOf catalog options name = .ok group) names groups ∧ groups.flatten = clients := by
  rw [clients_eq, Except.map_eq_ok_iff]
  simp only [Except.mapM_eq_ok_iff, outcome, Except.mapError_eq_ok_iff]

theorem clients_cons_eq_ok_iff {clients : List Client} :
    Run.clients catalog options (name :: names) = .ok clients ↔
      ∃ group rest, clientsOf catalog options name = .ok group ∧
        Run.clients catalog options names = .ok rest ∧ clients = group ++ rest := by
  simp only [clients_eq_ok_iff, List.forall₂_cons_left_iff]
  constructor
  · rintro ⟨_, ⟨group, groups, hg, hgroups, rfl⟩, rfl⟩
    exact ⟨group, _, hg, ⟨groups, hgroups, rfl⟩, rfl⟩
  · rintro ⟨group, _, hg, ⟨groups, hgroups, rfl⟩, rfl⟩
    exact ⟨_, ⟨group, groups, hg, hgroups, rfl⟩, rfl⟩

theorem clients_cons_of_ok {group : List Client} (h : clientsOf catalog options name = .ok group) :
    Run.clients catalog options (name :: names) =
      (group ++ ·) <$> Run.clients catalog options names := by
  have hname : outcome catalog options name = .ok group := Except.mapError_eq_ok_iff.mpr h
  rw [clients_eq, clients_eq, Except.mapM_cons_of_ok hname]
  cases names.mapM (outcome catalog options) <;> rfl

theorem clients_cons_of_error {fault : Fault} (h : clientsOf catalog options name = .error fault) :
    Run.clients catalog options (name :: names) = .error s!"{name}: {fault.message}" := by
  have hname : outcome catalog options name = .error s!"{name}: {fault.message}" := by
    rw [outcome, h]
    rfl
  rw [clients_eq, Except.mapM_cons_of_error hname]
  rfl

theorem clients_cons_eq_error_iff {error : String} :
    Run.clients catalog options (name :: names) = .error error ↔
      (∃ fault, clientsOf catalog options name = .error fault ∧ error = s!"{name}: {fault.message}") ∨
        ∃ group, clientsOf catalog options name = .ok group ∧
          Run.clients catalog options names = .error error := by
  cases hg : clientsOf catalog options name with
  | error fault =>
    rw [clients_cons_of_error hg]
    simp [eq_comm]
  | ok group =>
    rw [clients_cons_of_ok hg, Except.map_eq_error_iff]
    simp

theorem error_generateWith_eq_none_iff {files : List File} :
    (generateWith files names options).error = none ↔
      ∃ clients, Run.clients (.ofFiles files) options names = .ok clients := by
  unfold generateWith
  cases Run.clients (.ofFiles files) options names <;> simp

/-- What is known of the only client of a run. -/
theorem exists_client {β : Type} {f : Client → β} {b : β}
    (h : (·.map f) <$> Run.clients catalog options names = .ok [b]) :
    ∃ client, Run.clients catalog options names = .ok [client] ∧ f client = b := by
  obtain ⟨clients, hrun, hmap⟩ := Except.map_eq_ok_iff.mp h
  obtain ⟨client, rest, rfl, hb, hnil⟩ := List.map_eq_cons_iff.mp hmap
  rw [List.map_eq_nil_iff] at hnil
  subst hnil
  exact ⟨client, hrun, hb⟩

theorem exists_resolved {clients : List Client} (h : Run.clients catalog options names = .ok clients)
    {client : Client} (hc : client ∈ clients) :
    ∃ name ∈ names, ∃ file, catalog.file? name = some file ∧
      ∃ service ∈ file.services, Resolved catalog options file service client := by
  obtain ⟨groups, hg, rfl⟩ := clients_eq_ok_iff.mp h
  obtain ⟨group, hgroup, hc⟩ := List.mem_flatten.mp hc
  obtain ⟨name, hn, hgroup⟩ := Except.exists_mem_of_forall₂ hg hgroup
  obtain ⟨file, hf, hgroup⟩ := clientsOf_eq_ok_iff.mp hgroup
  obtain ⟨service, hs, hr⟩ := Except.exists_mem_of_forall₂ hgroup hc
  exact ⟨name, hn, file, hf, service, hs, hr⟩

end Run

end ClientGen
