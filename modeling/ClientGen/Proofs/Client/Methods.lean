import ClientGen.Proofs.Client.Scaffold

namespace ClientGen

open Text Code Emitter

namespace GoType.Named

variable {type : GoType}

theorem ends (h : type.Named) : ends type.render := ends_append h.name.ends _

theorem newline_notMem (h : type.Named) : '\n' ∉ type.render.toList := by
  simp [render, h.spec.newline_notMem, h.name.newline_notMem]

end GoType.Named

namespace Element.Named

variable {element : Element}

theorem scalar_ends : ∀ goType ∈ PageElement.scalars.map Prod.fst,
    Emitter.ends goType ∧ '\n' ∉ goType.toList := by
  decide

theorem ends (h : element.Named) : ends element.goType := by
  obtain ⟨type, htype, he⟩ | hscalar := h.goType
  · rw [he]
    exact ends_append htype.ends _
  · exact (scalar_ends _ hscalar).1

theorem newline_notMem (h : element.Named) : '\n' ∉ element.goType.toList := by
  obtain ⟨type, htype, he⟩ | hscalar := h.goType
  · rw [he, String.toList_append, List.mem_append, not_or]
    exact ⟨by decide, htype.newline_notMem⟩
  · exact (scalar_ends _ hscalar).2

end Element.Named

namespace Client

variable {client : Client} {call : Call} {request response operation : GoType} {element : Element}
  {target args field : String}

def params (exchange : Exchange) : String :=
  match exchange with
  | .unary request _ | .acknowledged request | .longRunning request _ | .serverStream request
  | .paged request _ _ _ => s!"req *{request.render}, "
  | .clientStream => ""

def streamType (client : Client) (call : Call) : String :=
  s!"{client.stub.name}.{client.service.name}_{call.method.name}Client"

def results (client : Client) (call : Call) : String :=
  match call.exchange with
  | .unary _ response => s!"(*{response.render}, error)"
  | .acknowledged _ => "error"
  | .longRunning _ _ => "(*longrunning.Operation, error)"
  | .serverStream _ | .clientStream => s!"({client.streamType call}, error)"
  | .paged _ _ element _ => s!"*{element.iterator}"

theorem newline_notMem_requestParam (h : request.Named) : '\n' ∉ (requestParam request).toList := by
  simp [requestParam, toString, h.newline_notMem]

theorem declares_methodComment (call : Call) : Declares (methodComment call) [] := by
  unfold methodComment
  split
  · exact .nil
  · refine (Declares.when (Declares.comment _).single).of_eq ?_
    split <;> rfl

theorem tidy_bufferPage : Tidy bufferPage := by
  decide

namespace Spelled

theorem tidy_callSetup (hname : IsName call.method.name) : Tidy (callSetup call) := by
  have hslot : '\n' ∉ ("c.CallOptions." ++ call.method.name).toList := by
    simp [hname.newline_notMem]
  refine (Tidy.literal (by decide)).cons (Tidy.line ?_).single
  exact ((((((Front.ofList (by decide)).append hslot).literal (by decide)).append hslot).literal
    (by decide)).append hslot).line (by decide)

theorem tidy_invoke (client : Client) (hname : IsName call.method.name) {c : Option Char}
    (ht : Front target c) (ha : '\n' ∉ args.toList) : Tidy (client.invoke call target args) := by
  have hcall : IsLine 0 0
      s!"{target}, err = c.{client.stubField}.{call.method.name}({args}, settings.GRPC...)" :=
    ((((((ht.literal (l := ", err = c.".toList) (by decide)).append
      (newline_notMem_stubField client)).literal (l := ['.']) (by decide)).name hname).literal
        (l := ['(']) (by decide)).append ha).line (by decide)
  exact .block_tail (.brace (by decide))
    ((Tidy.literal (by decide)).cons ((Tidy.line hcall).cons (Tidy.literal (by decide)).single))
    (by decide)

theorem heads_signature (h : client.Spelled) (hname : IsName call.method.name)
    {params results : String} (hparams : '\n' ∉ params.toList) (hresults : '\n' ∉ results.toList) :
    Heads (client.signature call params results) (.method client.typeName call.method.name) := by
  refine ⟨?_, ?_⟩
  · exact ((((((((Front.ofList (by decide)).name h.typeName).literal (by decide)).name hname).literal
      (by decide)).append hparams).literal (by decide)).append hresults).head (by decide)
  · refine Item.ofLine?_method ['c'] ("(ctx context.Context, ".toList ++ (params.toList ++
      ("opts ...gax.CallOption) ".toList ++ (results.toList ++ " \x7b".toList))))
        (by decide) h.typeName
      hname (by simp [Item.isNamePart_of_mem]) ?_
    delta signature
    simp [toString]

/-- The parts of a method that waits for one answer. -/
theorem tidy_answer (hname : IsName call.method.name) {var after : String} (hvar : IsLine 0 0 var)
    (hargs : '\n' ∉ args.toList) (hafter : IsLine 0 0 after) :
    Tidy [callSetup call, line var, client.invoke call "resp" args, returnOnError "nil",
      line after].flatten := by
  refine .flatten ?_
  simp only [List.forall_mem_cons]
  exact ⟨tidy_callSetup hname, .line hvar, tidy_invoke client hname (.ofList (by decide)) hargs,
    tidy_returnOnError (by decide), .line hafter, by simp⟩

theorem isLine_var (h : response.Named) : IsLine 0 0 s!"var resp *{response.render}" :=
  (Front.ofList (by decide)).last h.newline_notMem h.ends

theorem streamTypeName (h : client.Spelled) (hname : IsName call.method.name) :
    ends (client.streamType call) ∧ '\n' ∉ (client.streamType call).toList := by
  refine ⟨ends_append (ends_ofList (by decide)) _, ?_⟩
  simp [streamType, toString, h.stub.newline_notMem, h.service.newline_notMem, hname.newline_notMem]

theorem tidy_fetchPage (client : Client) (hname : IsName call.method.name)
    (hresponse : response.Named)
    (helement : element.Named) : Tidy (client.fetchPage call response element field) := by
  have hhead :
    IsLine 0 1 (s!"it.InternalFetch = func(pageSize int, pageToken string) ([]{element.goType}, string, error) " ++
      "\x7b") :=
    ((Front.ofList (by decide)).append helement.newline_notMem).head (by decide)
  have hclamp : Tidy (branch "pageSize > math.MaxInt32" [line "req.PageSize = math.MaxInt32"]
      [line "req.PageSize = int32(pageSize)"]) := by
    decide
  have hfield : '\n' ∉ (Naming.goField field).toList :=
    newline_notMem_of_isOrdinary fun _ hc => isOrdinary_of_mem_upperCamelCase hc
  have hreturn :
      IsLine 0 0 s!"return resp.Get{Naming.goField field}(), resp.GetNextPageToken(), nil" :=
    ((Front.ofList (by decide)).append hfield).line (by decide)
  refine .block hhead (.flatten ?_)
  simp only [List.forall_mem_cons]
  exact ⟨.line (isLine_var hresponse), .literal (by decide), hclamp,
    tidy_invoke client hname (.ofList (by decide)) (by decide), tidy_returnOnError (by decide),
    .line hreturn, by simp⟩

/-- A method is its signature and what stands below it. -/
theorem exists_methodBody_eq (h : client.Spelled) (hname : IsName call.method.name)
    (hexchange : call.exchange.Named) :
    ∃ parts, client.methodBody call =
        block (client.signature call (params call.exchange) (client.results call)) parts ∧
      Tidy parts.flatten := by
  obtain ⟨hends, hstream⟩ := h.streamTypeName hname
  have hvar : IsLine 0 0 s!"var resp {client.streamType call}" :=
    (Front.ofList (by decide)).last hstream hends
  unfold methodBody results
  cases he : call.exchange with
  | unary request response =>
    rw [he] at hexchange
    exact ⟨_, rfl, tidy_answer hname (isLine_var hexchange.2) (by decide) (.ofList (by decide))⟩
  | acknowledged request =>
    refine ⟨_, rfl, .flatten ?_⟩
    simp only [List.forall_mem_cons]
    exact ⟨tidy_callSetup hname, tidy_invoke client hname (.ofList (by decide)) (by decide),
      .literal (by decide), by simp⟩
  | longRunning request operation =>
    rw [he] at hexchange
    exact ⟨_, rfl, tidy_answer hname (isLine_var hexchange.2) (by decide) (.ofList (by decide))⟩
  | serverStream request => exact ⟨_, rfl, tidy_answer hname hvar (by decide) (.ofList (by decide))⟩
  | clientStream => exact ⟨_, rfl, tidy_answer hname hvar (by decide) (.ofList (by decide))⟩
  | paged request response element field =>
    rw [he] at hexchange
    obtain ⟨hrequest, hresponse, helement⟩ := hexchange
    have hiterator : IsLine 0 0 s!"it := &{element.iterator}\x7b\x7d" :=
      ((Front.ofList (by decide)).name helement.iterator).line (by decide)
    have hclone : IsLine 0 0 s!"req = proto.Clone(req).(*{request.render})" :=
      ((Front.ofList (by decide)).append hrequest.newline_notMem).line (by decide)
    refine ⟨_, rfl, .flatten ?_⟩
    simp only [List.forall_mem_cons]
    exact ⟨tidy_callSetup hname, .line hiterator, .line hclone,
      tidy_fetchPage client hname hresponse helement, tidy_bufferPage, .literal (by decide),
      .literal (by decide), .literal (by decide), by simp⟩

theorem newline_notMem_params (hexchange : call.exchange.Named) :
    '\n' ∉ (params call.exchange).toList := by
  unfold params
  cases he : call.exchange with
  | unary request response | longRunning request response =>
    rw [he] at hexchange
    exact newline_notMem_requestParam hexchange.1
  | acknowledged request | serverStream request =>
    rw [he] at hexchange
    exact newline_notMem_requestParam hexchange
  | clientStream => exact List.not_mem_nil
  | paged request response element field =>
    rw [he] at hexchange
    exact newline_notMem_requestParam hexchange.1

theorem newline_notMem_results (h : client.Spelled) (hname : IsName call.method.name)
    (hexchange : call.exchange.Named) : '\n' ∉ (client.results call).toList := by
  have hstream := (h.streamTypeName hname).2
  unfold results
  cases he : call.exchange with
  | unary request response =>
    rw [he] at hexchange
    simp [toString, hexchange.2.newline_notMem]
  | acknowledged request | longRunning request response => simp
  | serverStream request | clientStream => simp [toString, hstream]
  | paged request response element field =>
    rw [he] at hexchange
    simp [toString, hexchange.2.2.iterator.newline_notMem]

theorem declares_method (h : client.Spelled) (hname : IsName call.method.name)
    (hexchange : call.exchange.Named) :
    Declares (client.method call) [.method client.typeName call.method.name] := by
  obtain ⟨parts, hbody, hparts⟩ := h.exists_methodBody_eq hname hexchange
  have hhead := h.heads_signature hname (newline_notMem_params hexchange)
    (h.newline_notMem_results hname hexchange)
  have hdeclares := Declares.block hhead hparts
  rw [← hbody] at hdeclares
  exact (declares_methodComment call).cons (hdeclares.cons Declares.blank.single)

theorem named_element (h : client.Spelled) (he : element ∈ client.elements) : element.Named := by
  obtain ⟨call, hc, he⟩ := List.mem_filterMap.mp he
  have hexchange := h.exchanges call hc
  cases hx : call.exchange with
  | paged request response other field =>
    rw [hx] at he hexchange
    cases he
    exact hexchange.2.2
  | unary | acknowledged | longRunning | serverStream | clientStream =>
    rw [hx] at he
    cases he

end Spelled

end Client

end ClientGen
