import ClientGen.Proofs.Client.ImportNames
import ClientGen.Proofs.Client.NamedTypes
import ClientGen.Proofs.Text.Quoted
import Mathlib.Data.List.Count

namespace ClientGen

open Schema Text

namespace ImportSpec

def lead (spec : ImportSpec) : List Char :=
  if spec.name = "" then [] else spec.name.toList ++ [' ']

theorem toList_render (spec : ImportSpec) :
    spec.render.toList = spec.lead ++ Quoted.chars spec.path.toList := by
  unfold render lead
  by_cases hn : spec.name = ""
  · simp [hn, quoted]
  · have hne : spec.name.isEmpty = false := by
      rw [Bool.eq_false_iff, Ne, String.isEmpty_iff]
      exact hn
    simp [hn, hne, quoted]

/-- How an import is spelled: the name that it gives the package and a space, if it gives one, and
the path in quotes. -/
def spelling (spec : ImportSpec) : String := .ofList spec.lead ++ quoted spec.path

theorem render_eq_spelling (spec : ImportSpec) : spec.render = spec.spelling := by
  rw [← String.toList_inj, toList_render, spelling]
  simp [quoted]

theorem getLast?_lead (spec : ImportSpec) : spec.lead.getLast? ≠ some '\\' := by
  unfold lead
  split <;> simp

theorem name_eq_of_lead_eq {s t : ImportSpec} (h : s.lead = t.lead) : s.name = t.name := by
  unfold lead at h
  by_cases hs : s.name = "" <;> by_cases ht : t.name = ""
  · rw [hs, ht]
  · simp [hs, ht] at h
  · simp [hs, ht] at h
  · rw [if_neg hs, if_neg ht] at h
    exact String.toList_injective (List.append_cancel_right h)

theorem spelling_injective : Function.Injective spelling := by
  intro s t h
  have hchars : s.lead ++ Quoted.chars s.path.toList = t.lead ++ Quoted.chars t.path.toList := by
    rw [← toList_render, ← toList_render, render_eq_spelling, render_eq_spelling, h]
  obtain ⟨hlead, hpath⟩ := Quoted.append_chars_inj s.getLast?_lead t.getLast?_lead hchars
  have hname := name_eq_of_lead_eq hlead
  cases s
  cases t
  cases hname
  cases String.toList_injective hpath
  rfl

end ImportSpec

def Code.texts (code : Code) : List String :=
  code.filterMap fun
    | .line text => some text
    | _ => none

namespace Code

theorem mem_texts {code : Code} {text : String} : text ∈ texts code ↔ .line text ∈ code := by
  rw [texts, List.mem_filterMap]
  constructor
  · rintro ⟨op, hop, htext⟩
    cases op with
    | line =>
      cases htext
      exact hop
    | blank | comment | enter | leave => cases htext
  · exact fun h => ⟨_, h, rfl⟩

theorem texts_append (a b : Code) : texts (a ++ b) = texts a ++ texts b :=
  List.filterMap_append

theorem texts_lines (l : List String) : texts (lines l) = l := by
  simp [texts, lines, List.filterMap_map]

end Code

namespace Header

theorem code_eq (options : Options) (imports : ImportSet) (doc : Option String) :
    code options imports doc = code options .empty doc ++ importBlock imports := by
  simp [code, Code.seq, importBlock, Code.when, ImportSet.isEmpty, ImportSet.empty]

/-- Between the parentheses of an import block are the imports, one on each line. -/
theorem texts_importBlock {imports : ImportSet} (h : imports.specs ≠ []) :
    Code.texts (importBlock imports) =
      "import (" :: (imports.sorted.map ImportSpec.render ++ [")"]) := by
  have hempty : imports.isEmpty = false := by simpa [ImportSet.isEmpty] using h
  have hsplit := List.take_append_drop imports.boundary imports.sorted
  unfold importBlock
  generalize hstd : imports.sorted.take imports.boundary = std at *
  generalize hothers : imports.sorted.drop imports.boundary = others at *
  rw [← hsplit, List.map_append, hempty]
  have hblank : Code.texts (Code.when (!(std.map ImportSpec.render).isEmpty &&
      !(others.map ImportSpec.render).isEmpty) [Code.blank]) = [] := by
    unfold Code.when
    split <;> rfl
  have hparens (parts : List Code) :
      Code.texts (Code.when (!false) [Code.parens "import " parts, Code.blank]) =
      "import (" :: (Code.texts parts.flatten ++ [")"]) := by
    simp [Code.when, Code.seq, Code.parens, Code.texts, Code.blank]
  rw [hparens]
  simp only [List.flatten_cons, List.flatten_nil, List.append_nil, Code.texts_append,
    Code.texts_lines, hblank, List.nil_append]

theorem nodup_sorted (imports : ImportSet) : imports.sorted.Nodup :=
  (List.mergeSort_perm _ _).nodup_iff.mpr imports.nodup

theorem mem_sorted {imports : ImportSet} {spec : ImportSpec} :
    spec ∈ imports.sorted ↔ spec ∈ imports.specs :=
  (List.mergeSort_perm _ _).mem_iff

end Header

namespace Client

variable {catalog : Catalog} {options : Options} {file : File} {service : Service} {client : Client}
  {spec : ImportSpec} {method : Method} {shape : CallShape} {exchange : Exchange} {name : String}

inductive Needs (catalog : Catalog) (file : File) (service : Service) : ImportSpec → Prop
  | always {spec : ImportSpec}
      (h : spec ∈ [ClientImport.gax, ClientImport.option, ClientImport.grpc, ClientImport.metadata,
        ClientImport.context, ClientImport.transport]) :
      Needs catalog file service spec
  | stub {spec : ImportSpec} (h : ClientImport.ofFile file = .ok spec) :
      Needs catalog file service spec
  | retry {spec : ImportSpec} {method : Method} (hm : method ∈ service.methods)
      (hr : RetryPolicy.isRetryable method = true)
      (h : spec ∈ [ClientImport.codes, ClientImport.time]) : Needs catalog file service spec
  | longRunning {spec : ImportSpec} {method : Method} (hm : method ∈ service.methods)
      (hs : shapeOf catalog method = .ok .longRunning)
      (h : spec ∈ [ClientImport.longrunning, ClientImport.lroauto]) :
      Needs catalog file service spec
  | paged {spec : ImportSpec} {method : Method} {field : Field} (hm : method ∈ service.methods)
      (hs : shapeOf catalog method = .ok (.paged field))
      (h : spec ∈ [ClientImport.math, ClientImport.proto, ClientImport.iterator]) :
      Needs catalog file service spec
  | type {spec : ImportSpec} {method : Method} {name : String} {owner : File}
      (hm : method ∈ service.methods) (hn : NamesType catalog method name)
      (ho : catalog.owningFile name = .ok owner) (h : ClientImport.ofFile owner = .ok spec) :
      Needs catalog file service spec

theorem Exchange.mem_ownImports_iff (h : Exchange.Resolved catalog method shape exchange) :
    spec ∈ exchange.ownImports ↔ shape = .longRunning ∧ spec = ClientImport.longrunning ∨
      ∃ field, shape = .paged field ∧
        spec ∈ [ClientImport.math, ClientImport.proto, ClientImport.iterator] := by
  cases h <;> simp [Exchange.ownImports]

theorem Exchange.mem_typeImports_iff (hs : shapeOf catalog method = .ok shape)
    (h : Exchange.Resolved catalog method shape exchange) :
    spec ∈ exchange.typeImports ↔ ∃ name, NamesType catalog method name ∧
      ∃ type, catalog.goType name = .ok type ∧ type.spec = spec := by
  simp only [namesType_iff hs]
  refine Except.mem_iff_of_forall₂ ?_ h.forall₂_typeImports
  rintro name _ _ ⟨type, htype, rfl⟩ ⟨type', htype', rfl⟩
  cases htype.symm.trans htype'
  rfl

theorem Resolved.exists_call (h : Resolved catalog options file service client)
    (hm : method ∈ service.methods) :
    ∃ call ∈ client.calls, ResolvedCall catalog (service.fullName file) method call :=
  Except.exists_mem_of_forall₂ h.calls_eq.flip hm

/-- A property of calls holds of one just when a property of methods does, if the two agree. -/
theorem Resolved.exists_call_iff (h : Resolved catalog options file service client) {p : Call → Prop}
    {q : Method → Prop}
    (hpq : ∀ method call, ResolvedCall catalog (service.fullName file) method call →
      (p call ↔ q method)) :
    (∃ call ∈ client.calls, p call) ↔ ∃ method ∈ service.methods, q method := by
  constructor
  · rintro ⟨call, hc, hp⟩
    obtain ⟨method, hm, hcall⟩ := h.exists_method hc
    exact ⟨method, hm, (hpq method call hcall).mp hp⟩
  · rintro ⟨method, hm, hq⟩
    obtain ⟨call, hc, hcall⟩ := h.exists_call hm
    exact ⟨call, hc, (hpq method call hcall).mpr hq⟩

theorem hasLongRunning_iff (h : Resolved catalog options file service client) :
    client.hasLongRunning = true ↔
      ∃ method ∈ service.methods, shapeOf catalog method = .ok .longRunning := by
  rw [hasLongRunning, List.any_eq_true]
  refine h.exists_call_iff fun method call hcall => ?_
  obtain ⟨shape, hs, he⟩ := hcall.exchange_eq
  rw [hs]
  generalize call.exchange = exchange at *
  cases Exchange.resolved_of_resolve he <;> simp [Exchange.isLongRunning]

/-- The methods that have a policy, which is the default one. -/
theorem mem_retries_iff {retry : String × RetryPolicy} : retry ∈ client.retries ↔
    retry.2 = {} ∧ ∃ method ∈ client.service.methods,
      RetryPolicy.isRetryable method ∧ method.name = retry.1 := by
  obtain ⟨name, policy⟩ := retry
  simp only [retries, RetryPolicy.ofService, List.mem_map, List.mem_eraseDups, List.mem_filter,
    Prod.mk.injEq]
  constructor
  · rintro ⟨_, ⟨method, ⟨hm, hretry⟩, rfl⟩, rfl, rfl⟩
    exact ⟨rfl, method, hm, hretry, rfl⟩
  · rintro ⟨rfl, method, hm, hretry, rfl⟩
    exact ⟨_, ⟨method, ⟨hm, hretry⟩, rfl⟩, rfl, rfl⟩

theorem isEmpty_retries_iff (h : Resolved catalog options file service client) :
    client.retries.isEmpty = false ↔
      ∃ method ∈ service.methods, RetryPolicy.isRetryable method = true := by
  rw [List.isEmpty_eq_false_iff_exists_mem, ← h.service_eq]
  constructor
  · rintro ⟨retry, hmem⟩
    obtain ⟨_, method, hm, hr, _⟩ := mem_retries_iff.mp hmem
    exact ⟨method, hm, hr⟩
  · rintro ⟨method, hm, hr⟩
    exact ⟨(method.name, {}), mem_retries_iff.mpr ⟨rfl, method, hm, hr, rfl⟩⟩

theorem exists_ownImports_iff (h : Resolved catalog options file service client) :
    (∃ call ∈ client.calls, spec ∈ call.exchange.ownImports) ↔
      ∃ method ∈ service.methods,
        shapeOf catalog method = .ok .longRunning ∧ spec = ClientImport.longrunning ∨
        ∃ field, shapeOf catalog method = .ok (.paged field) ∧
          spec ∈ [ClientImport.math, ClientImport.proto, ClientImport.iterator] := by
  refine h.exists_call_iff fun method call hcall => ?_
  obtain ⟨shape, hs, he⟩ := hcall.exchange_eq
  rw [hs, Exchange.mem_ownImports_iff (Exchange.resolved_of_resolve he)]
  simp only [Except.ok.injEq]

theorem exists_typeImports_iff (h : Resolved catalog options file service client) :
    (∃ call ∈ client.calls, spec ∈ call.exchange.typeImports) ↔
      ∃ method ∈ service.methods, ∃ name, NamesType catalog method name ∧
        ∃ owner, catalog.owningFile name = .ok owner ∧ ClientImport.ofFile owner = .ok spec := by
  refine h.exists_call_iff fun method call hcall => ?_
  obtain ⟨shape, hs, he⟩ := hcall.exchange_eq
  have hresolved := Exchange.resolved_of_resolve he
  rw [Exchange.mem_typeImports_iff hs hresolved]
  refine exists_congr fun name => and_congr_right fun hn => ?_
  constructor
  · rintro ⟨type, htype, rfl⟩
    obtain ⟨owner, ho, hspec, _⟩ := Catalog.goType_eq_ok_iff.mp htype
    exact ⟨owner, ho, hspec⟩
  · rintro ⟨owner, ho, hspec⟩
    obtain ⟨type, htype⟩ := ((exists_exchange_iff hs).mp ⟨_, hresolved⟩).1 name hn
    obtain ⟨owner', ho', hspec', _⟩ := Catalog.goType_eq_ok_iff.mp htype
    cases ho.symm.trans ho'
    cases hspec.symm.trans hspec'
    exact ⟨type, htype, rfl⟩

theorem mem_retryImports_iff (h : Resolved catalog options file service client)
    {own : List ImportSpec} : spec ∈ (if client.retries.isEmpty then [] else own) ↔
      ∃ method ∈ service.methods, RetryPolicy.isRetryable method = true ∧ spec ∈ own := by
  rw [List.mem_ite_nil_left, Bool.not_eq_true, isEmpty_retries_iff h]
  simp only [← and_assoc, exists_and_right]

theorem mem_longRunningImports_iff (h : Resolved catalog options file service client)
    {own : List ImportSpec} :
    spec ∈ (if client.hasLongRunning then own else []) ↔
      ∃ method ∈ service.methods, shapeOf catalog method = .ok .longRunning ∧ spec ∈ own := by
  rw [List.mem_ite_nil_right, hasLongRunning_iff h]
  simp only [← and_assoc, exists_and_right]

/-- A client imports what it needs, and nothing else. -/
theorem mem_imports_iff_needs (h : Resolved catalog options file service client) :
    spec ∈ client.imports.specs ↔ Needs catalog file service spec := by
  have hown : spec ∈ client.calls.flatMap (·.exchange.ownImports) ↔ _ :=
    List.mem_flatMap.trans (exists_ownImports_iff h)
  have htypes : spec ∈ client.calls.flatMap (·.exchange.typeImports) ↔ _ :=
    List.mem_flatMap.trans (exists_typeImports_iff h)
  rw [mem_imports, typeImports, List.mem_cons, htypes]
  simp only [ownImports, List.flatten_cons, List.flatten_nil, List.append_nil, List.mem_append,
    mem_retryImports_iff h, mem_longRunningImports_iff h, hown]
  constructor
  · rintro ((hspec | ⟨method, hm, hr, hspec⟩ | ⟨method, hm, hs, hspec⟩ |
      ⟨method, hm, ⟨hs, rfl⟩ | ⟨field, hs, hspec⟩⟩) | rfl | ⟨method, hm, name, hn, owner, ho, hspec⟩)
    · exact .always (by grind)
    · exact .retry hm hr hspec
    · exact .longRunning hm hs (List.mem_cons_of_mem _ hspec)
    · exact .longRunning hm hs List.mem_cons_self
    · exact .paged hm hs hspec
    · exact .stub h.stub_eq
    · exact .type hm hn ho hspec
  · intro hneeds
    cases hneeds with
    | always hspec => exact .inl (.inl (by grind))
    | stub hspec =>
      cases h.stub_eq.symm.trans hspec
      exact .inr (.inl rfl)
    | retry hm hr hspec => exact .inl (.inr (.inl ⟨_, hm, hr, hspec⟩))
    | longRunning hm hs hspec =>
      rcases List.mem_cons.mp hspec with rfl | hspec
      · exact .inl (.inr (.inr (.inr ⟨_, hm, .inl ⟨hs, rfl⟩⟩)))
      · exact .inl (.inr (.inr (.inl ⟨_, hm, hs, hspec⟩)))
    | paged hm hs hspec => exact .inl (.inr (.inr (.inr ⟨_, hm, .inr ⟨_, hs, hspec⟩⟩)))
    | type hm hn ho hspec => exact .inr (.inr ⟨_, hm, _, hn, _, ho, hspec⟩)

end Client

end ClientGen
