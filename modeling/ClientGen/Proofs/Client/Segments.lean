import ClientGen.Proofs.Client.IteratorItems

namespace ClientGen

open Schema Text Code Emitter

theorem Emitter.written_flatten {parts : List Code} (h : ∀ part ∈ parts, Tidy part) :
    written 0 parts.flatten = String.join (parts.map (written 0)) := by
  induction parts with
  | nil => rfl
  | cons part parts ih =>
    rw [List.flatten_cons, written_append,
      levelAfter_of_levelAfter? (h part List.mem_cons_self).level_eq,
      ih fun part hp => h part (List.mem_cons_of_mem _ hp), List.map_cons, String.join_cons]

namespace Client

variable {catalog : Catalog} {options : Options} {file : File} {service : Service}
  {client other : Client} {call : Call}

/-- The pieces of a body: what every client has, the methods, and the iterators that were not
declared before. -/
def segments (declared : List String) (client : Client) : List Code :=
  client.scaffold :: client.calls.map client.method ++
    (newElements declared client.elements).map Element.declaration

theorem body_eq_written (declared : List String) :
    client.body declared = written 0 (client.segments declared).flatten := by
  rw [body, render_eq, segments]
  simp [seq, List.flatMap_def]

/-- The text of a method: its comment, the signature that its shape prescribes with the code below
it, and no other declaration. A client with the same names has it too, whatever else it has. -/
structure MethodText (client : Client) (call : Call) (text : String) : Prop where
  begins : ∃ below, text = written 0 (methodComment call) ++
    s!"func (c *{client.typeName}) {call.method.name}(ctx context.Context, {params call.exchange}opts ...gax.CallOption) {client.results call} \x7b\n" ++
      below
  declares : Item.ofText text = [.method client.typeName call.method.name]
  same : ∀ other : Client, other.stem = client.stem → other.stub.name = client.stub.name →
    other.service.name = client.service.name → written 0 (other.method call) = text

theorem method_congr (hstem : other.stem = client.stem) (hstub : other.stub.name = client.stub.name)
    (hservice : other.service.name = client.service.name) (call : Call) :
    other.method call = client.method call := by
  have hsignature : other.signature call = client.signature call := by
    delta signature typeName
    rw [hstem]
  have hinvoke : other.invoke call = client.invoke call := by
    delta invoke stubField
    rw [hstem]
  have hstream : other.streamMethod call = client.streamMethod call := by
    delta streamMethod
    rw [hsignature, hinvoke, hstub, hservice]
  have hfetch : other.fetchPage call = client.fetchPage call := by
    delta fetchPage
    rw [hinvoke]
  delta method methodBody unaryMethod acknowledgedMethod longRunningMethod pagedMethod
  rw [hsignature, hinvoke, hstream, hfetch]

theorem Spelled.methodText (h : client.Spelled) (hc : call ∈ client.calls) :
    client.MethodText call (written 0 (client.method call)) := by
  have hname := h.calls call hc
  have hexchange := h.exchanges call hc
  refine ⟨?_, (h.declares_method hname hexchange).ofText, ?_⟩
  · obtain ⟨parts, hbody, hparts⟩ := h.exists_methodBody_eq hname hexchange
    have hhead := h.heads_signature hname (newline_notMem_params hexchange)
      (h.newline_notMem_results hname hexchange)
    obtain ⟨below, hbelow⟩ := exists_written_block hhead.isLine parts ""
    have hmethod : written 0 (client.method call) =
        written 0 (methodComment call) ++ written 0 (client.methodBody call) ++ "\n" := by
      have hblock : Tidy (client.methodBody call) := by
        rw [hbody]
        exact .block hhead.isLine hparts
      rw [method, seq, written_flatten]
      · simp [String.join_cons, String.append_assoc]
        rfl
      · simp only [List.forall_mem_cons]
        exact ⟨(declares_methodComment call).toTidy, hblock, .blank, by simp⟩
    refine ⟨below ++ "\n", ?_⟩
    rw [hmethod, hbody, hbelow, ← String.toList_inj]
    delta signature
    simp [toString]
  · intro other hstem hstub hservice
    rw [method_congr hstem hstub hservice]

/-- The signature of a method stands on a row of its own. -/
theorem Spelled.signature_mem_printed (h : client.Spelled) (hc : call ∈ client.calls) :
    s!"func (c *{client.typeName}) {call.method.name}(ctx context.Context, {params call.exchange}opts ...gax.CallOption) {client.results call} \x7b" ∈
      printed 0 (client.method call) := by
  have hname := h.calls call hc
  have hexchange := h.exchanges call hc
  obtain ⟨parts, hbody, hparts⟩ := h.exists_methodBody_eq hname hexchange
  have hhead := h.heads_signature hname (newline_notMem_params hexchange)
    (h.newline_notMem_results hname hexchange)
  have hblock : Tidy (client.methodBody call) := by
    rw [hbody]
    exact .block hhead.isLine hparts
  have hsignature : client.signature call (params call.exchange) (client.results call) ++ "\x7b" =
      s!"func (c *{client.typeName}) {call.method.name}(ctx context.Context, {params call.exchange}opts ...gax.CallOption) {client.results call} \x7b" := by
    delta signature
    rw [← String.toList_inj]
    simp [toString]
  rw [method, seq, printed_cons (declares_methodComment call).toTidy.rises,
    printed_cons hblock.rises, hbody,
    block, printed_line_cons hhead.isLine, hsignature, tabs_zero_append]
  simp

theorem Spelled.tidy_segments (h : client.Spelled) (declared : List String) :
    ∀ segment ∈ client.segments declared, Tidy segment := by
  intro segment hs
  rw [segments, List.cons_append, List.mem_cons, List.mem_append, List.mem_map, List.mem_map] at hs
  obtain rfl | ⟨call, hc, rfl⟩ | ⟨element, he, rfl⟩ := hs
  · exact h.declares_scaffold.toTidy
  · exact (h.declares_method (h.calls call hc) (h.exchanges call hc)).toTidy
  · exact (h.named_element ((newElements_sublist _ _).subset he)).declares_declaration.toTidy

/-- A body is its segments one after the other. Each begins and ends at the left margin and closes
no level but those that it opens. The first declares what a client has beside its methods. There is
one segment for each method, whose text depends on the call and on the names of the client alone,
and one for each new iterator, which declares it over the type of its elements. -/
theorem body_eq_segments (h : resolve catalog options file service = .ok client)
    (hnamed : client.Named) (declared : List String) :
    client.body declared = String.join ((client.segments declared).map (written 0)) ∧
      (∀ front, front <+: client.segments declared → levelAfter 0 front.flatten = 0) ∧
      (∀ segment ∈ client.segments declared, levelAfter? 0 segment = some 0) ∧
      Item.ofText (written 0 client.scaffold) = client.scaffoldItems ∧
      List.Forall₂ (ResolvedCall catalog (service.fullName file)) service.methods client.calls ∧
      (∀ call ∈ client.calls, client.MethodText call (written 0 (client.method call))) ∧
      iterators (newElements declared client.elements) =
        ((iterators client.elements).filter (· ∉ declared)).eraseDups ∧
      ∀ element ∈ newElements declared client.elements,
        element ∈ client.elements ∧
          Element.IteratorText element.iterator element.goType (written 0 element.declaration) := by
  have hr := resolve_eq_ok_iff.mp h
  have hspelled := hr.spelled hnamed
  have htidy := hspelled.tidy_segments declared
  refine ⟨?_, fun front hfront => ?_, fun segment hs => (htidy segment hs).level_eq,
    hspelled.declares_scaffold.ofText, hr.calls_eq, fun call hc => hspelled.methodText hc,
    iterators_newElements _ _, fun element he => ?_⟩
  · rw [body_eq_written, written_flatten htidy]
  · have hflatten : Tidy front.flatten := .flatten fun part hp => htidy part (hfront.subset hp)
    exact levelAfter_of_levelAfter? hflatten.level_eq
  · have hmem := (newElements_sublist _ _).subset he
    exact ⟨hmem, (hspelled.named_element hmem).iteratorText⟩

theorem body_eq_segments_library :
    ∃ client, Run.clients (.ofFiles (libraryFiles "Record")) libraryOptions ["library.proto"] =
        .ok [client] ∧ client.Named ∧ client.elements = [bookElement, archiveElement "Record"] ∧
      newElements ["BookIterator"] client.elements = [archiveElement "Record"] ∧
      client.body ["BookIterator"] =
        String.join ((client.segments ["BookIterator"]).map (written 0)) ∧
      .global "Client" ∈ Item.ofText (written 0 client.scaffold) ∧
      Element.IteratorText "RecordIterator" "*archivepb.Record"
        (written 0 (archiveElement "Record").declaration) := by
  have hclients : (·.map fun client => (client.elements, client.typeName)) <$>
      Run.clients (.ofFiles (libraryFiles "Record")) libraryOptions ["library.proto"] =
        .ok [([bookElement, archiveElement "Record"], "Client")] := by
    decide +kernel
  have hfiles : ∀ file ∈ libraryFiles "Record", file.HasNames := by
    decide +kernel
  obtain ⟨client, hrun, hc⟩ := Run.exists_client hclients
  obtain ⟨he, htype⟩ := Prod.mk.inj hc
  obtain ⟨name, _, file, hf, service, hs, hr⟩ := Run.exists_resolved hrun List.mem_cons_self
  have hnamed := hr.named hfiles (Catalog.mem_of_file? hf).1 hs
  have hnew : newElements ["BookIterator"] client.elements = [archiveElement "Record"] := by
    rw [he]
    decide
  obtain ⟨hbody, _, _, hscaffold, _, _, _, hiterators⟩ :=
    body_eq_segments (resolve_eq_ok_iff.mpr hr) hnamed ["BookIterator"]
  refine ⟨client, hrun, hnamed, he, hnew, hbody, ?_, ?_⟩
  · rw [hscaffold, scaffoldItems, htype]
    simp
  · rw [hnew] at hiterators
    exact (hiterators _ List.mem_cons_self).2

end Client

end ClientGen
