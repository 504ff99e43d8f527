import ClientGen.Proofs.Client.Resolved
import Mathlib.Data.List.Nodup

namespace ClientGen

open Schema Text

namespace ImportSpec

theorem boundName_of_named {spec : ImportSpec} (h : spec.name ≠ "") : spec.boundName = spec.name := by
  have hn : spec.name.isEmpty = false := by
    rw [Bool.eq_false_iff, Ne, String.isEmpty_iff]
    exact h
  simp [boundName, hn]

theorem derivedName?_ne_empty {path name : String} (h : derivedName? path = some name) :
    name ≠ "" := by
  unfold derivedName? at h
  obtain ⟨cs, hc, rfl⟩ := Option.map_eq_some_iff.mp h
  have hne := (Option.filter_eq_some_iff.mp hc).2
  rw [Ne, String.ofList_eq_empty_iff]
  simpa using hne

theorem name_ne_empty {file : File} {spec : ImportSpec} (h : ofFile file = .ok spec) :
    spec.name ≠ "" := by
  unfold ofFile at h
  simp only at h
  split at h
  · cases h
  · -- a hint with a semicolon, and one without
    split at h
    all_goals
      dsimp only at h
      split at h
      · cases h
      · split at h
        · rename_i hn
          cases h
          intro he
          simp_all
        · split at h
          · rename_i hd
            cases h
            exact derivedName?_ne_empty hd
          · cases h

end ImportSpec

namespace ClientImport

theorem nodup_boundName : (all.map (·.boundName)).Nodup := by
  decide

theorem boundName_eq :
    context.boundName = "context" ∧ math.boundName = "math" ∧ time.boundName = "time" ∧
      gax.boundName = "gax" ∧ proto.boundName = "proto" ∧ iterator.boundName = "iterator" ∧
      option.boundName = "option" ∧ transport.boundName = "transport" ∧ grpc.boundName = "grpc" ∧
      codes.boundName = "codes" ∧ metadata.boundName = "metadata" ∧
      longrunning.boundName = "longrunning" ∧ lroauto.boundName = "lroauto" := by
  decide +kernel

theorem boundName_ne_append :
    ∀ own ∈ all, ∀ other ∈ all, other.boundName ≠ own.boundName ++ "pb" := by
  decide

/-- The renamed import of a package of types clashes with none of a client's own imports. -/
theorem boundName_ne_of_path_ne {file : File} {spec own : ImportSpec} (h : ofFile file = .ok spec)
    (ho : own ∈ all) (hp : own.path ≠ spec.path) : own.boundName ≠ spec.name := by
  unfold ofFile at h
  obtain ⟨raw, hr, h⟩ := Except.bind_eq_ok_iff.mp h
  cases h
  split at hp
  · -- the spec was renamed, and no own import has such a name
    rename_i hc
    rw [if_pos hc]
    obtain ⟨other, hother, hclash⟩ := List.any_eq_true.mp hc
    simp only [Bool.and_eq_true, beq_iff_eq] at hclash
    rw [← hclash.2]
    exact boundName_ne_append other hother own ho
  · -- a spec that clashes with `own` would have been renamed
    rename_i hc
    rw [if_neg hc]
    intro he
    apply hc
    refine List.any_eq_true.mpr ⟨own, ho, ?_⟩
    rw [ImportSpec.boundName_of_named (ImportSpec.name_ne_empty hr)]
    simp [hp, he]

theorem name_ne_empty {file : File} {spec : ImportSpec} (h : ofFile file = .ok spec) :
    spec.name ≠ "" := by
  unfold ofFile at h
  obtain ⟨raw, hr, h⟩ := Except.bind_eq_ok_iff.mp h
  cases h
  split
  · simp
  · exact ImportSpec.name_ne_empty hr

end ClientImport

namespace CallShape

variable {method : Method} {shape : CallShape} {field : Field} {name : String}

/-- The types that the code for a method of a shape names, in the order in which they are looked
up. -/
def typeNames (method : Method) : CallShape → List String
  | .unary => method.inputType :: if method.outputType = emptyType then [] else [method.outputType]
  | .serverStreaming => [method.inputType]
  | .clientStreaming | .bidiStreaming => []
  | .longRunning => [method.inputType, operationType]
  | .paged field =>
    method.inputType :: method.outputType :: if field.kind = .message then field.typeName.toList
      else []

theorem inputType_mem_typeNames (hclient : shape ≠ .clientStreaming)
    (hbidi : shape ≠ .bidiStreaming) : method.inputType ∈ shape.typeNames method := by
  cases shape <;> simp_all [typeNames]

theorem mem_typeNames_unary : name ∈ unary.typeNames method ↔
    name = method.inputType ∨ method.outputType ≠ emptyType ∧ name = method.outputType := by
  by_cases he : method.outputType = emptyType <;> simp [typeNames, he]

theorem mem_typeNames_paged : name ∈ (paged field).typeNames method ↔
    name = method.inputType ∨ name = method.outputType ∨
      field.kind = .message ∧ field.typeName = some name := by
  by_cases hk : field.kind = .message <;> simp [typeNames, hk]

end CallShape

namespace Exchange

def ownImports : Exchange → List ImportSpec
  | .longRunning .. => [ClientImport.longrunning]
  | .paged .. => [ClientImport.math, ClientImport.proto, ClientImport.iterator]
  | _ => []

def typeImports : Exchange → List ImportSpec
  | .unary request response => [request.spec, response.spec]
  | .acknowledged request => [request.spec]
  | .longRunning request operation => [request.spec, operation.spec]
  | .serverStream request => [request.spec]
  | .clientStream => []
  | .paged request response element _ => request.spec :: response.spec :: element.imports

theorem mem_imports {exchange : Exchange} {spec : ImportSpec} :
    spec ∈ exchange.imports ↔ spec ∈ exchange.ownImports ∨ spec ∈ exchange.typeImports := by
  cases exchange <;> simp [imports, ownImports, typeImports, or_assoc]

theorem ownImports_subset (exchange : Exchange) : exchange.ownImports ⊆ ClientImport.all := by
  cases exchange <;> simp [ownImports, ClientImport.all]

section

variable {catalog : Catalog} {method : Method} {shape : CallShape} {exchange : Exchange}

/-- A call imports the packages of the types that its method names, one for one. -/
theorem Resolved.forall₂_typeImports (h : Resolved catalog method shape exchange) :
    List.Forall₂ (fun name spec => ∃ type, catalog.goType name = .ok type ∧ type.spec = spec)
      (shape.typeNames method) exchange.typeImports := by
  cases h with
  | unary hreq hne hres =>
    rw [CallShape.typeNames, if_neg hne]
    exact .cons ⟨_, hreq, rfl⟩ (.cons ⟨_, hres, rfl⟩ .nil)
  | acknowledged hreq he =>
    rw [CallShape.typeNames, if_pos he]
    exact .cons ⟨_, hreq, rfl⟩ .nil
  | longRunning hreq hop => exact .cons ⟨_, hreq, rfl⟩ (.cons ⟨_, hop, rfl⟩ .nil)
  | serverStream hreq => exact .cons ⟨_, hreq, rfl⟩ .nil
  | clientStream | bidiStream => exact .nil
  | @paged field page _ _ _ hpage hreq hres helem =>
    refine .cons ⟨_, hreq, rfl⟩ (.cons ⟨_, hres, rfl⟩ ?_)
    cases page with
    | scalar goType stem =>
      cases helem
      rw [if_neg (PageElement.kind_ne_message_of_ofField hpage)]
      exact .nil
    | message typeName =>
      obtain ⟨hk, ht⟩ := PageElement.ofField_eq_ok_message_iff.mp hpage
      obtain ⟨type, htype, rfl⟩ := Element.resolve_message_eq_ok_iff.mp helem
      rw [if_pos hk, ht]
      exact .cons ⟨type, htype, rfl⟩ .nil

theorem exists_file_of_mem_typeImports (h : resolve catalog method shape = .ok exchange)
    {spec : ImportSpec} (hs : spec ∈ exchange.typeImports) :
    ∃ file, ClientImport.ofFile file = .ok spec := by
  obtain ⟨_, _, type, htype, rfl⟩ :=
    Except.exists_mem_of_forall₂ (resolved_of_resolve h).forall₂_typeImports hs
  obtain ⟨file, _, hf, _⟩ := Catalog.goType_eq_ok_iff.mp htype
  exact ⟨file, hf⟩

end

end Exchange

namespace Client

variable {catalog : Catalog} {options : Options} {file : File} {service : Service} {client : Client}
  {spec : ImportSpec}

def ownImports (client : Client) : List ImportSpec :=
  List.flatten [
    [ClientImport.context, ClientImport.gax, ClientImport.option, ClientImport.transport,
      ClientImport.grpc, ClientImport.metadata],
    if client.retries.isEmpty then [] else [ClientImport.codes, ClientImport.time],
    if client.hasLongRunning then [ClientImport.lroauto] else [],
    client.calls.flatMap (·.exchange.ownImports)]

def typeImports (client : Client) : List ImportSpec :=
  client.stub :: client.calls.flatMap (·.exchange.typeImports)

theorem mem_imports :
    spec ∈ client.imports.specs ↔ spec ∈ client.ownImports ∨ spec ∈ client.typeImports := by
  rw [imports, ImportSet.mem_ofList]
  simp only [scaffoldImports, ownImports, typeImports, List.flatten_cons, List.flatten_nil,
    List.mem_append, List.mem_cons, List.mem_flatMap, Exchange.mem_imports, and_or_left, exists_or,
    List.not_mem_nil, or_false]
  grind

theorem ownImports_subset (client : Client) : client.ownImports ⊆ ClientImport.all := by
  have hcalls : client.calls.flatMap (·.exchange.ownImports) ⊆ ClientImport.all := by
    intro spec hs
    obtain ⟨call, _, hs⟩ := List.mem_flatMap.mp hs
    exact call.exchange.ownImports_subset hs
  intro spec hs
  simp only [ownImports, List.flatten_cons, List.flatten_nil, List.mem_append, List.mem_cons,
    List.not_mem_nil, or_false] at hs
  rcases hs with hs | hs | hs | hs
  · simp only [ClientImport.all, List.mem_cons]
    tauto
  · split at hs
    · simp at hs
    · simp only [List.mem_cons, List.not_mem_nil, or_false] at hs
      simp only [ClientImport.all, List.mem_cons]
      tauto
  · split at hs
    · simp only [List.mem_singleton] at hs
      simp only [ClientImport.all, List.mem_cons]
      tauto
    · simp at hs
  · exact hcalls hs

theorem exists_file_of_mem_typeImports (h : Resolved catalog options file service client)
    (hs : spec ∈ client.typeImports) : ∃ file, ClientImport.ofFile file = .ok spec := by
  rcases List.mem_cons.mp hs with rfl | hs
  · exact ⟨file, h.stub_eq⟩
  · obtain ⟨call, hc, hs⟩ := List.mem_flatMap.mp hs
    obtain ⟨method, _, hcall⟩ := h.exists_method hc
    obtain ⟨shape, _, he⟩ := hcall.exchange_eq
    exact Exchange.exists_file_of_mem_typeImports he hs

theorem boundName_of_mem_typeImports (h : Resolved catalog options file service client)
    (hs : spec ∈ client.typeImports) : spec.boundName = spec.name := by
  obtain ⟨file, hf⟩ := exists_file_of_mem_typeImports h hs
  exact ImportSpec.boundName_of_named (ClientImport.name_ne_empty hf)

theorem path_eq_of_boundName_eq (h : Resolved catalog options file service client)
    {own : ImportSpec} (ho : own ∈ client.ownImports) (hs : spec ∈ client.typeImports)
    (hb : own.boundName = spec.boundName) : own.path = spec.path := by
  obtain ⟨file, hf⟩ := exists_file_of_mem_typeImports h hs
  by_contra hp
  rw [boundName_of_mem_typeImports h hs] at hb
  exact ClientImport.boundName_ne_of_path_ne hf (client.ownImports_subset ho) hp hb

/-- The imports of a client bind different names just when no two packages of types share a name,
and no package of types is at the path of an own import that binds its name. -/
theorem boundName_inj_iff (h : Resolved catalog options file service client) :
    (∀ s ∈ client.imports.specs, ∀ t ∈ client.imports.specs, s.boundName = t.boundName → s = t) ↔
      (∀ s ∈ client.typeImports, ∀ t ∈ client.typeImports, s.name = t.name → s.path = t.path) ∧
        ∀ own ∈ client.ownImports, ∀ s ∈ client.typeImports,
          own.path = s.path → own.boundName = s.name → own = s := by
  constructor
  · intro hinj
    refine ⟨?_, ?_⟩
    · intro s hs t ht hn
      have hb : s.boundName = t.boundName := by
        rw [boundName_of_mem_typeImports h hs, boundName_of_mem_typeImports h ht, hn]
      rw [hinj s (mem_imports.mpr (.inr hs)) t (mem_imports.mpr (.inr ht)) hb]
    · intro own ho s hs _ hn
      refine hinj own (mem_imports.mpr (.inl ho)) s (mem_imports.mpr (.inr hs)) ?_
      rw [boundName_of_mem_typeImports h hs, hn]
  · rintro ⟨htypes, hown⟩ s hs t ht hb
    have hmixed {own type : ImportSpec} (ho : own ∈ client.ownImports)
        (ht : type ∈ client.typeImports) (hb : own.boundName = type.boundName) : own = type := by
      refine hown own ho type ht (path_eq_of_boundName_eq h ho ht hb) ?_
      rw [hb, boundName_of_mem_typeImports h ht]
    -- only two packages of types can share a name at different paths
    rcases mem_imports.mp hs with hs | hs <;> rcases mem_imports.mp ht with ht | ht
    · exact List.inj_on_of_nodup_map ClientImport.nodup_boundName (client.ownImports_subset hs)
        (client.ownImports_subset ht) hb
    · exact hmixed hs ht hb
    · exact (hmixed ht hs hb.symm).symm
    · rw [boundName_of_mem_typeImports h hs, boundName_of_mem_typeImports h ht] at hb
      have hp := htypes s hs t ht hb
      cases s
      cases t
      cases hb
      cases hp
      rfl

/-- In the header of every client of a run, all imports bind different names just when no two
packages of types share a name, and no package of types is at the path of an own import that binds
its name. Renaming a package of types never leads to another clash. -/
theorem boundName_inj_of_run_iff {files : List File} {names : List String} {clients : List Client}
    (h : Run.clients (.ofFiles files) options names = .ok clients) (hc : client ∈ clients) :
    (∀ s ∈ client.imports.specs, ∀ t ∈ client.imports.specs, s.boundName = t.boundName → s = t) ↔
      (∀ s ∈ client.typeImports, ∀ t ∈ client.typeImports, s.name = t.name → s.path = t.path) ∧
        ∀ own ∈ client.ownImports, ∀ s ∈ client.typeImports,
          own.path = s.path → own.boundName = s.name → own = s := by
  obtain ⟨_, _, _, _, _, _, hr⟩ := Run.exists_resolved h hc
  exact boundName_inj_iff hr

def shopFiles (hint : String) : List File := [
  { name := "shop.proto"
    package := "shop"
    goPackage := some "example.com/shop;types"
    messages := [{ name := "Reply" }]
    services := [
      { name := "Shop"
        defaultHost := some "shop.example.com"
        methods := [{ name := "Buy", inputType := ".order.Order", outputType := ".shop.Reply" }] }] },
  { name := "order.proto"
    package := "order"
    goPackage := some hint
    messages := [{ name := "Order" }] }]

def shopOptions : Options := { pkgPath := "example.com/shop/apiv1", pkgName := "shop" }

theorem boundName_inj_of_run_orders :
    ∃ clients client, Run.clients (.ofFiles (shopFiles "example.com/order;orders")) shopOptions
        ["shop.proto"] = .ok clients ∧ client ∈ clients ∧
      (∀ s ∈ client.typeImports, ∀ t ∈ client.typeImports, s.name = t.name → s.path = t.path) ∧
        ∀ own ∈ client.ownImports, ∀ s ∈ client.typeImports,
          own.path = s.path → own.boundName = s.name → own = s := by
  have himports : (·.map (·.imports.specs)) <$> Run.clients
      (.ofFiles (shopFiles "example.com/order;orders")) shopOptions ["shop.proto"] = .ok [[
      ClientImport.context, ClientImport.gax, ClientImport.option, ClientImport.transport,
      ClientImport.grpc, ClientImport.metadata, ⟨"types", "example.com/shop"⟩,
      ⟨"orders", "example.com/order"⟩]] := by
    decide +kernel
  obtain ⟨client, hrun, hs⟩ := Run.exists_client himports
  refine ⟨_, client, hrun, List.mem_cons_self, ?_⟩
  refine (boundName_inj_of_run_iff hrun List.mem_cons_self).mp ?_
  rw [hs]
  decide

/-- Two packages of types with one name are imported without a warning. -/
theorem boundName_not_inj :
    ∃ clients client, Run.clients (.ofFiles (shopFiles "example.com/order;types")) shopOptions
        ["shop.proto"] = .ok clients ∧ client ∈ clients ∧
      ∃ s ∈ client.imports.specs, ∃ t ∈ client.imports.specs, s.boundName = t.boundName ∧ s ≠ t := by
  have himports : (·.map (·.imports.specs)) <$> Run.clients
      (.ofFiles (shopFiles "example.com/order;types")) shopOptions ["shop.proto"] = .ok [[
      ClientImport.context, ClientImport.gax, ClientImport.option, ClientImport.transport,
      ClientImport.grpc, ClientImport.metadata, ⟨"types", "example.com/shop"⟩,
      ⟨"types", "example.com/order"⟩]] := by
    decide +kernel
  obtain ⟨client, hrun, hs⟩ := Run.exists_client himports
  refine ⟨_, client, hrun, List.mem_cons_self, ?_⟩
  rw [hs]
  decide

end Client

end ClientGen
