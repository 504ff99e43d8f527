import ClientGen.Proofs.Client.Segments
import ClientGen.Proofs.Emitter.Cites

namespace ClientGen

open Schema Text Code Emitter

theorem GoType.Named.lead {type : GoType} {names : List String} (h : type.Named)
    (hmem : type.spec.name ∈ names) : Lead names type.render :=
  .chain h.spec hmem fun c hc => isChain_of_isOrdinary (h.name.isOrdinary c hc)

namespace Client

variable {catalog : Catalog} {options : Options} {file : File} {service : Service} {client : Client}
  {call : Call} {types extra : List String}

/-- The names that a body puts before those of members and that are no packages: receivers and
variables. -/
def locals : List String := ["c", "it", "req", "resp", "settings"]

def common : List String := locals ++ ["context", "gax", "option", "transport", "grpc", "metadata"]

theorem cites_returnOnError {l : List Char} (h : isRest common (l ++ ", err".toList)) :
    Cites (common ++ types) (returnOnError (.ofList l)) := by
  have hreturn :
      s!"return {String.ofList l}, err" = "return " ++ String.ofList (l ++ ", err".toList) := by
    rw [← String.toList_inj]
    simp [toString]
  rw [returnOnError, hreturn]
  exact .block (.ofList (by decide)) (Cites.line ((Lead.ofList (by decide)).literal h)).single

theorem subset_of_extra (h : extra ⊆ types) : (common ++ extra) ++ types ⊆ common ++ types := by
  rw [List.append_assoc]
  refine List.append_subset.mpr ⟨List.subset_append_left _ _, ?_⟩
  exact List.append_subset.mpr ⟨List.Subset.trans h (List.subset_append_right _ _),
    List.subset_append_right _ _⟩

theorem cites_retryBlock (h : ["codes", "time"] ⊆ types) :
    Cites (common ++ types) (retryBlock {}) := by
  have hcites : Cites ((common ++ ["codes", "time"]) ++ types) (retryBlock {}) :=
    .of_all (by decide)
  exact hcites.mono (subset_of_extra h)

theorem cites_lroauto (h : "lroauto" ∈ types) :
    Cites (common ++ types) (line "LROClient *lroauto.OperationsClient") ∧ Cites (common ++ types)
      (line "c.LROClient, err = lroauto.NewOperationsClient(ctx, option.WithGRPCConn(conn))") := by
  have hsub : (common ++ ["lroauto"]) ++ types ⊆ common ++ types := subset_of_extra (by simpa using h)
  exact ⟨(Cites.literal (by decide)).mono hsub, (Cites.literal (by decide)).mono hsub⟩

theorem cites_serviceComment (client : Client) : Cites (common ++ types) client.serviceComment := by
  unfold serviceComment
  split
  · exact .nil
  · exact .when ((Cites.remark (.ofList (by decide))).cons (Cites.comment _).single)

theorem cites_methodComment (call : Call) : Cites (common ++ types) (methodComment call) := by
  unfold methodComment
  split
  · exact .nil
  · exact .when (Cites.comment _).single

namespace Spelled

theorem isOrdinary_stem (h : client.Spelled) : ∀ c ∈ client.stem.toList, isOrdinary c :=
  fun c hc => isOrdinary_of_isNamePart (h.stem c hc)

theorem cites_optionsStruct (h : client.Spelled) : Cites (common ++ types) client.optionsStruct := by
  have hremark : Remark
      s!"// {client.optionsType} contains the retry settings for each method of {client.typeName}." :=
    ((((Remark.ofList (by decide)).append _).append _).append _).append _
  have hhead : Lead (common ++ types) s!"type {client.optionsType} struct " :=
    ((Lead.ofList (by decide)).name h.optionsType.isOrdinary).literal (by decide)
  have hfields : Cites (common ++ types) (lines (client.methodNames.map fun name =>
      padded (widest client.methodNames) name ++ " []gax.CallOption")) := by
    refine .lines fun text ht => ?_
    obtain ⟨name, hn, rfl⟩ := List.mem_map.mp ht
    exact ((Lead.ofName (h.methodName hn).isOrdinary).spaces _).literal (by decide)
  exact (Cites.remark hremark).cons ((Cites.block hhead hfields.single).cons Cites.blank.single)

theorem cites_clientOptions (h : client.Spelled) : Cites (common ++ types) client.clientOptions := by
  have hhead :
      Lead (common ++ types) s!"func default{client.stem}ClientOptions() []option.ClientOption " :=
    ((Lead.ofList (by decide)).name h.isOrdinary_stem).literal (by decide)
  have hendpoint : Lead (common ++ types) s!"option.WithEndpoint({quoted client.endpoint})," :=
    ((Gap.ofList (by decide)).append (.ofQuoted _)).literal (by decide)
  have hscopes : Lead (common ++ types) s!"option.WithScopes(Default{client.stem}AuthScopes()...)," :=
    ((Lead.ofList (by decide)).name h.isOrdinary_stem).literal (by decide)
  have hreturn : Lead (common ++ types) "return []option.ClientOption" := .ofList (by decide)
  exact (Cites.block hhead (Cites.block hreturn ((Cites.line hendpoint).cons
    (Cites.when (Cites.line hscopes).single).single)).single).cons Cites.blank.single

theorem cites_authScopes (h : client.Spelled) : Cites (common ++ types) client.authScopes := by
  have hremark :
      Remark s!"// Default{client.stem}AuthScopes reports the default set of authentication scopes to use with this package." :=
    ((Remark.ofList (by decide)).append _).append _
  have hhead : Lead (common ++ types) s!"func Default{client.stem}AuthScopes() []string " :=
    ((Lead.ofList (by decide)).name h.isOrdinary_stem).literal (by decide)
  have hscopes :
      Cites (common ++ types) (lines (client.service.oauthScopes.map fun scope =>
        quoted scope ++ ",")) := by
    refine .lines fun text ht => ?_
    obtain ⟨scope, _, rfl⟩ := List.mem_map.mp ht
    exact (Lead.ofQuoted scope).literal (by decide)
  have hreturn : Lead (common ++ types) "return []string" := .ofList (by decide)
  exact .when ((Cites.remark hremark).cons
    ((Cites.block hhead (Cites.block hreturn hscopes.single).single).cons Cites.blank.single))

theorem cites_callOptions (h : client.Spelled)
    (hretry : client.service.methods.any RetryPolicy.isRetryable → ["codes", "time"] ⊆ types) :
    Cites (common ++ types) client.callOptions := by
  have hhead : Lead (common ++ types) s!"func default{client.optionsType}() *{client.optionsType} " :=
    ((((Lead.ofList (by decide)).name h.optionsType.isOrdinary).literal (by decide)).name
      h.optionsType.isOrdinary).literal (by decide)
  have hshared : Cites (common ++ types) client.sharedRetry := by
    rw [sharedRetry_eq]
    split
    · rename_i hany
      exact cites_retryBlock (hretry hany)
    · exact .nil
  have hreturn : Lead (common ++ types) s!"return &{client.optionsType}" :=
    (Lead.ofList (by decide)).name h.optionsType.isOrdinary
  have hfields : Cites (common ++ types) (lines (client.methodNames.map fun name =>
      padded (widest (client.methodNames.map (· ++ ":"))) (name ++ ":") ++ " " ++
        client.callOption name ++ ",")) := by
    refine .lines fun text ht => ?_
    obtain ⟨name, hn, rfl⟩ := List.mem_map.mp ht
    have hfront :
        Lead (common ++ types) (padded (widest (client.methodNames.map (· ++ ":"))) (name ++ ":")) :=
      ((Lead.ofName (h.methodName hn).isOrdinary).literal (l := [':']) (by decide)).spaces _
    unfold callOption
    split
    · exact ((hfront.gap (l := [' ']) (by decide)).literal (l := "retry".toList)
        (by decide)).literal (by decide)
    · exact ((hfront.gap (l := [' ']) (by decide)).literal (l := "[]gax.CallOption\x7b\x7d".toList)
        (by decide)).literal (by decide)
  exact (Cites.block hhead (hshared.cons (Cites.block hreturn hfields.single).single)).cons
    Cites.blank.single

theorem cites_clientStruct (h : client.Spelled) (hstub : client.stub.name ∈ types)
    (hlong : client.hasLongRunning → "lroauto" ∈ types) :
    Cites (common ++ types) client.clientStruct := by
  have hremark : Remark s!"// {client.typeName} is a client for interacting with {client.label}." :=
    ((((Remark.ofList (by decide)).append _).append _).append _).append _
  have hhead : Lead (common ++ types) s!"type {client.typeName} struct " :=
    ((Lead.ofList (by decide)).name h.typeName.isOrdinary).literal (by decide)
  have hfield : Gap (common ++ types) (client.stubField ++ " ") :=
    (Lead.ofName (isOrdinary_stubField client)).gap (l := [' ']) (by decide)
  have hclient :
      Lead (common ++ types) s!"{client.stubField} {client.stub.name}.{client.service.name}Client" :=
    ((hfield.member (l := []) h.stub (List.mem_append_right _ hstub) rfl).name
      h.service.isOrdinary).literal (by decide)
  have hoptions : Lead (common ++ types) s!"CallOptions *{client.optionsType}" :=
    (Lead.ofList (by decide)).name h.optionsType.isOrdinary
  have hoperations : Cites (common ++ types) (when client.hasLongRunning [
      line "// LROClient is used internally to handle long-running operations.",
      line "// It is exposed so that its CallOptions can be modified if required.",
      line "// Users should not Close this client.",
      line "LROClient *lroauto.OperationsClient",
      blank]) := by
    refine .when_of fun htrue => .flatten ?_
    simp only [List.forall_mem_cons]
    exact ⟨.remark (.ofList (by decide)), .remark (.ofList (by decide)),
      .remark (.ofList (by decide)), (cites_lroauto (hlong htrue)).1, .blank, by simp⟩
  refine (Cites.remark hremark).cons ((cites_serviceComment client).cons
    ((Cites.block hhead (.flatten ?_)).cons Cites.blank.single))
  simp only [List.forall_mem_cons]
  refine ⟨.remark (.ofList (by decide)), .literal (by decide), .blank, .remark (.ofList (by decide)),
    .line hclient, .blank, hoperations, .remark (.ofList (by decide)), .line hoptions, .blank,
    .remark (.ofList (by decide)), .literal (by decide), by simp⟩

theorem cites_constructor (h : client.Spelled) (hstub : client.stub.name ∈ types)
    (hlong : client.hasLongRunning → "lroauto" ∈ types) :
    Cites (common ++ types) client.constructor := by
  have hremark : Remark s!"// New{client.typeName} creates a new {client.service.name} client." :=
    ((((Remark.ofList (by decide)).append _).append _).append _).append _
  have hhead :
      Lead (common ++ types)
        s!"func New{client.typeName}(ctx context.Context, opts ...option.ClientOption) (*{client.typeName}, error) " :=
    ((((Lead.ofList (by decide)).name h.typeName.isOrdinary).literal (by decide)).name
      h.typeName.isOrdinary).literal (by decide)
  have hdial :
      Lead (common ++ types)
        s!"conn, err := transport.DialGRPC(ctx, append(default{client.stem}ClientOptions(), opts...)...)" :=
    ((Lead.ofList (by decide)).name h.isOrdinary_stem).literal (by decide)
  have hcreate : Lead (common ++ types) s!"c := &{client.typeName}" :=
    (Lead.ofList (by decide)).name h.typeName.isOrdinary
  have hconn (width : Nat) : Lead (common ++ types) (padded width "conn:" ++ " conn,") :=
    ((Lead.ofList (by decide)).spaces _).literal (by decide)
  have hoptions (width : Nat) :
      Lead (common ++ types) (padded width "CallOptions:" ++
        s!" default{client.optionsType}(),") := by
    have hsplit : padded width "CallOptions:" ++ s!" default{client.optionsType}()," =
        padded width "CallOptions:" ++ " default" ++ client.optionsType ++ "()," := by
      rw [← String.toList_inj]
      simp [toString]
    rw [hsplit]
    exact ((((Lead.ofList (by decide)).spaces _).literal (by decide)).name
      h.optionsType.isOrdinary).literal (by decide)
  have hclient :
      Lead (common ++ types)
        s!"{client.stubField}: {client.stub.name}.New{client.service.name}Client(conn)," := by
    have hfield : Gap (common ++ types) (client.stubField ++ ": ") :=
      (Lead.ofName (isOrdinary_stubField client)).gap (l := [':', ' ']) (by decide)
    exact ((hfield.member (l := "New".toList) h.stub (List.mem_append_right _ hstub) (by decide)).name
      h.service.isOrdinary).literal (by decide)
  have hoperations : Cites (common ++ types) (when client.hasLongRunning [
      blank,
      line "c.LROClient, err = lroauto.NewOperationsClient(ctx, option.WithGRPCConn(conn))",
      block "if err != nil " [
        line "// The connection is reused, so no dial happens and conn is not closed here.",
        line "return nil, err"]]) := by
    refine .when_of fun htrue => .flatten ?_
    have hcheck : Cites (common ++ types) (block "if err != nil " [
        line "// The connection is reused, so no dial happens and conn is not closed here.",
        line "return nil, err"]) :=
      .block (.ofList (by decide)) ((Cites.remark (.ofList (by decide))).cons
        (Cites.literal (by decide)).single)
    simp only [List.forall_mem_cons]
    exact ⟨.blank, (cites_lroauto (hlong htrue)).2, hcheck, by simp⟩
  refine (Cites.remark hremark).cons ((Cites.block hhead (.flatten ?_)).cons Cites.blank.single)
  simp only [List.forall_mem_cons]
  refine ⟨.line hdial, cites_returnOnError (by decide), .block hcreate (.flatten ?_),
    .literal (by decide), hoperations, .literal (by decide), by simp⟩
  simp only [List.forall_mem_cons]
  exact ⟨.line (hconn _), .line (hoptions _), .blank, .line hclient, by simp⟩

theorem cites_connection (h : client.Spelled) : Cites (common ++ types) client.connection := by
  have hhead :
      Lead (common ++ types) s!"func (c *{client.typeName}) Connection() *grpc.ClientConn " :=
    ((Lead.ofList (by decide)).name h.typeName.isOrdinary).literal (by decide)
  exact (Cites.remark (.ofList (by decide))).cons
    ((Cites.block hhead (Cites.literal (by decide)).single).cons Cites.blank.single)

theorem cites_close (h : client.Spelled) : Cites (common ++ types) client.close := by
  have hhead : Lead (common ++ types) s!"func (c *{client.typeName}) Close() error " :=
    ((Lead.ofList (by decide)).name h.typeName.isOrdinary).literal (by decide)
  exact (Cites.remark (.ofList (by decide))).cons ((Cites.remark (.ofList (by decide))).cons
    ((Cites.block hhead (Cites.literal (by decide)).single).cons Cites.blank.single))

theorem cites_clientInfo (h : client.Spelled) : Cites (common ++ types) client.clientInfo := by
  have hhead :
      Lead (common ++ types) s!"func (c *{client.typeName}) setGoogleClientInfo(keyval ...string) " :=
    ((Lead.ofList (by decide)).name h.typeName.isOrdinary).literal (by decide)
  have hlines : Cites (common ++ types) (seq [
      line "kv := append([]string\x7b\"gl-go\", versionGo()\x7d, keyval...)",
      line "kv = append(kv, \"gapic\", versionClient, \"gax\", gax.Version, \"grpc\", grpc.Version)",
      line "c.xGoogMetadata = metadata.Pairs(\"x-goog-api-client\", gax.XGoogHeader(kv...))"]) :=
    (Cites.literal (by decide)).cons ((Cites.literal (by decide)).cons
      (Cites.literal (by decide)).single)
  exact (Cites.remark (.ofList (by decide))).cons ((Cites.remark (.ofList (by decide))).cons
    ((Cites.remark (.ofList (by decide))).cons ((Cites.block hhead hlines).cons Cites.blank.single)))

theorem cites_scaffold (h : client.Spelled) (hstub : client.stub.name ∈ types)
    (hretry : client.service.methods.any RetryPolicy.isRetryable → ["codes", "time"] ⊆ types)
    (hlong : client.hasLongRunning → "lroauto" ∈ types) :
    Cites (common ++ types) client.scaffold := by
  refine .flatten ?_
  simp only [List.forall_mem_cons]
  exact ⟨h.cites_optionsStruct, h.cites_clientOptions, h.cites_authScopes, h.cites_callOptions hretry,
    h.cites_clientStruct hstub hlong, h.cites_constructor hstub hlong, h.cites_connection,
    h.cites_close, h.cites_clientInfo, by simp⟩

theorem cites_callSetup (hname : IsName call.method.name) :
    Cites (common ++ types) (callSetup call) := by
  have hslot {a : String} (ha : Gap (common ++ types) a) :
      Lead (common ++ types) (a ++ ("c.CallOptions." ++ call.method.name)) := by
    have hsplit :
        "c.CallOptions." ++ call.method.name = "c" ++ "." ++
          ("CallOptions." ++ call.method.name) := by
      rw [← String.toList_inj]
      simp
    rw [hsplit]
    refine ha.append (.chain (.ofList (by decide)) (by simp [common, locals]) fun c hc => ?_)
    rw [String.toList_append, List.mem_append] at hc
    obtain hc | hc := hc
    · exact List.all_eq_true.mp (by decide : "CallOptions.".toList.all isChain) c hc
    · exact isChain_of_isOrdinary (hname.isOrdinary c hc)
  have hopts := hslot ((hslot ((hslot (Gap.ofList (l := "opts = append(".toList) (by decide))).gap
    (l := "[0:len(".toList) (by decide))).gap (l := "):len(".toList) (by decide))
  exact (Cites.literal (by decide)).cons (Cites.line (hopts.literal (by decide))).single

theorem cites_invoke (client : Client) (hname : IsName call.method.name) {target args : String}
    (ht : Lead (common ++ types) target) (ha : Lead (common ++ types) args) :
    Cites (common ++ types) (client.invoke call target args) := by
  have hsplit :
    s!"{target}, err = c.{client.stubField}.{call.method.name}({args}, settings.GRPC...)" =
      target ++ ", err = " ++ ("c" ++ "." ++ (client.stubField ++ "." ++ call.method.name)) ++
        "(" ++ args ++ ", settings.GRPC...)" := by
    rw [← String.toList_inj]
    simp [toString]
  have hmethod : Lead (common ++ types) (target ++ ", err = " ++
      ("c" ++ "." ++ (client.stubField ++ "." ++ call.method.name))) := by
    refine (ht.gap (l := ", err = ".toList) (by decide)).append (.chain (.ofList (by decide))
      (by simp [common, locals]) fun c hc => ?_)
    simp only [String.toList_append, List.mem_append] at hc
    obtain (hc | hc) | hc := hc
    · exact isChain_of_isOrdinary (isOrdinary_stubField client c hc)
    · exact List.all_eq_true.mp (by decide : ".".toList.all isChain) c hc
    · exact isChain_of_isOrdinary (hname.isOrdinary c hc)
  have hcall : Lead (common ++ types)
      s!"{target}, err = c.{client.stubField}.{call.method.name}({args}, settings.GRPC...)" := by
    rw [hsplit]
    exact ((hmethod.gap (l := ['(']) (by decide)).append ha).literal (by decide)
  exact .block_tail (.ofList (by decide)) ((Cites.literal (by decide)).cons
    ((Cites.line hcall).cons (Cites.literal (by decide)).single)) (by decide)

theorem gap_requestParam {request : GoType} (h : request.Named) (hmem : request.spec.name ∈ types) :
    Gap (common ++ types) (requestParam request) :=
  ((Gap.ofList (by decide)).append (h.lead (List.mem_append_right _ hmem))).gap (by decide)

theorem gap_params (h : call.exchange.Named)
    (hmem : ∀ spec ∈ call.exchange.typeImports, spec.name ∈ types) :
    Gap (common ++ types) (params call.exchange) := by
  unfold params
  generalize call.exchange = exchange at *
  cases exchange with
  | unary request response | longRunning request response | paged request response element field =>
    exact gap_requestParam h.1 (hmem _ List.mem_cons_self)
  | acknowledged request | serverStream request =>
    exact gap_requestParam h (hmem _ List.mem_cons_self)
  | clientStream => exact .nil

theorem lead_streamType (h : client.Spelled) (hname : IsName call.method.name)
    (hstub : client.stub.name ∈ types) : Lead (common ++ types) (client.streamType call) := by
  have hsplit : client.streamType call =
      client.stub.name ++ "." ++ (client.service.name ++ "_" ++ call.method.name ++ "Client") := by
    rw [← String.toList_inj]
    simp [streamType, toString]
  rw [hsplit]
  have hmember : IsName (client.service.name ++ "_" ++ call.method.name ++ "Client") :=
    ((h.service.literal (l := ['_']) (by simp [isNamePart])).append hname.2).literal (by decide)
  exact .chain h.stub (List.mem_append_right _ hstub) fun c hc =>
    isChain_of_isOrdinary (hmember.isOrdinary c hc)

theorem lead_results (h : client.Spelled) (hname : IsName call.method.name)
    (hexchange : call.exchange.Named)
    (hmem : ∀ spec ∈ call.exchange.typeImports, spec.name ∈ types) (hstub : client.stub.name ∈ types)
    (hlong : call.exchange.isLongRunning → "longrunning" ∈ types) :
    Lead (common ++ types) (client.results call) := by
  have hstream := h.lead_streamType hname hstub
  unfold results
  generalize call.exchange = exchange at *
  cases exchange with
  | unary request response =>
    have hresponse :=
      hexchange.2.lead (List.mem_append_right common (hmem _ (by simp [Exchange.typeImports])))
    exact ((Gap.ofList (by decide)).append hresponse).literal (by decide)
  | acknowledged request => exact .ofList (by decide)
  | longRunning request operation =>
    have hextra : ["longrunning"] ⊆ types := by simpa using hlong rfl
    have hlead : Lead ((common ++ ["longrunning"]) ++ types) "(*longrunning.Operation, error)" :=
      .ofList (by decide)
    exact hlead.mono (subset_of_extra hextra)
  | serverStream request | clientStream =>
    exact ((Gap.ofList (by decide)).append hstream).literal (by decide)
  | paged request response element field =>
    exact (Lead.ofList (by decide)).name hexchange.2.2.iterator.isOrdinary

theorem lead_signature (h : client.Spelled) (hname : IsName call.method.name)
    {params results : String}
    (hparams : Gap (common ++ types) params) (hresults : Lead (common ++ types) results) :
    Lead (common ++ types) (client.signature call params results) := by
  have hfront : Gap (common ++ types)
      ("func (c *" ++ client.typeName ++ ") " ++ call.method.name ++ "(ctx context.Context, ") :=
    (((Lead.ofList (by decide)).name h.typeName.isOrdinary).literal (l := [')', ' '])
      (by decide)).name hname.isOrdinary |>.gap (l := "(ctx context.Context, ".toList) (by decide)
  have hoptions : Gap (common ++ types) ("func (c *" ++ client.typeName ++ ") " ++ call.method.name ++
      "(ctx context.Context, " ++ params ++ "opts ...gax.CallOption) ") :=
    (hfront.append_gap hparams).toLead.gap (l := "opts ...gax.CallOption) ".toList) (by decide)
  exact (hoptions.append hresults).literal (l := [' ']) (by decide)

theorem cites_answer (hname : IsName call.method.name) {var args after : String}
    (hvar : Lead (common ++ types) var) (hargs : Lead (common ++ types) args)
    (hafter : Lead (common ++ types) after) :
    Cites (common ++ types) [callSetup call, line var, client.invoke call "resp" args,
      returnOnError "nil", line after].flatten := by
  refine .flatten ?_
  simp only [List.forall_mem_cons]
  exact ⟨cites_callSetup hname, .line hvar, cites_invoke client hname (.ofList (by decide)) hargs,
    cites_returnOnError (by decide), .line hafter, by simp⟩

theorem lead_var {response : GoType} (h : response.Named) (hmem : response.spec.name ∈ types) :
    Lead (common ++ types) s!"var resp *{response.render}" :=
  (Gap.ofList (by decide)).append (h.lead (List.mem_append_right _ hmem))

theorem cites_fetchPage (client : Client) (hname : IsName call.method.name) {response : GoType}
    {element : Element} {field : String} (hresponse : response.Named)
    (hmem : response.spec.name ∈ types)
    (helement : Lead (common ++ types) element.goType) (hmath : "math" ∈ types) :
    Cites (common ++ types) (client.fetchPage call response element field) := by
  have hhead : Lead (common ++ types)
      s!"it.InternalFetch = func(pageSize int, pageToken string) ([]{element.goType}, string, error) " :=
    ((Gap.ofList (by decide)).append helement).literal (by decide)
  have hclamp : Cites (common ++ types) (branch "pageSize > math.MaxInt32"
      [line "req.PageSize = math.MaxInt32"] [line "req.PageSize = int32(pageSize)"]) := by
    have hcites : Cites ((common ++ ["math"]) ++ types) (branch "pageSize > math.MaxInt32"
        [line "req.PageSize = math.MaxInt32"] [line "req.PageSize = int32(pageSize)"]) :=
      .of_all (by decide)
    exact hcites.mono (subset_of_extra (by simpa using hmath))
  have hreturn :
      Lead (common ++ types)
        s!"return resp.Get{Naming.goField field}(), resp.GetNextPageToken(), nil" :=
    ((Lead.ofList (by decide)).name fun _ hc => isOrdinary_of_mem_upperCamelCase hc).literal
      (by decide)
  refine .block hhead (.flatten ?_)
  simp only [List.forall_mem_cons]
  exact ⟨.line (lead_var hresponse hmem), .literal (by decide), hclamp,
    cites_invoke client hname (.ofList (by decide)) (.ofList (by decide)),
    cites_returnOnError (by decide), .line hreturn, by simp⟩

theorem cites_bufferPage : Cites (common ++ types) bufferPage := .of_all (by decide)

theorem cites_pagedParts (client : Client) (hname : IsName call.method.name)
    {request response : GoType}
    {element : Element} {field : String} (hrequest : request.Named) (hresponse : response.Named)
    (hiterator : IsName element.iterator) (hreq : request.spec.name ∈ types)
    (hres : response.spec.name ∈ types)
    (helement : Lead (common ++ types) element.goType)
    (hpaged : ["math", "proto", "iterator"] ⊆ types) :
    Cites (common ++ types) [callSetup call, line s!"it := &{element.iterator}\x7b\x7d",
      line s!"req = proto.Clone(req).(*{request.render})",
        client.fetchPage call response element field,
      bufferPage, line
        "it.pageInfo, it.nextFunc = iterator.NewPageInfo(fetch, it.bufLen, it.takeBuf)",
      line "it.pageInfo.MaxSize = int(req.GetPageSize())", line "return it"].flatten := by
  have hsub : (common ++ ["math", "proto", "iterator"]) ++ types ⊆ common ++ types :=
    subset_of_extra hpaged
  have hcreate : Lead (common ++ types) s!"it := &{element.iterator}\x7b\x7d" :=
    ((Lead.ofList (by decide)).name hiterator.isOrdinary).literal (by decide)
  have hclone : Lead ((common ++ ["math", "proto", "iterator"]) ++ types)
      s!"req = proto.Clone(req).(*{request.render})" :=
    ((Gap.ofList (by decide)).append (hrequest.lead (List.mem_append_right _ hreq))).literal
      (by decide)
  have hmath : "math" ∈ types := hpaged List.mem_cons_self
  refine .flatten ?_
  simp only [List.forall_mem_cons]
  exact ⟨cites_callSetup hname, .line hcreate, .line (hclone.mono hsub),
    cites_fetchPage client hname hresponse hres helement hmath, cites_bufferPage,
    (Cites.literal (by decide)).mono hsub, .literal (by decide), .literal (by decide), by simp⟩

/-- A method refers to what its call imports and to what all clients import. -/
theorem cites_method (h : client.Spelled) (hname : IsName call.method.name)
    (hexchange : call.exchange.Named)
    (hmem : ∀ spec ∈ call.exchange.typeImports, spec.name ∈ types) (hstub : client.stub.name ∈ types)
    (hown : ∀ spec ∈ call.exchange.ownImports, spec.boundName ∈ types)
    (helement : ∀ element ∈ call.exchange.element?, Lead (common ++ types) element.goType) :
    Cites (common ++ types) (client.method call) := by
  have hlong : call.exchange.isLongRunning → "longrunning" ∈ types := by
    intro htrue
    have hspec : ClientImport.longrunning ∈ call.exchange.ownImports := by
      revert htrue
      cases call.exchange <;> simp [Exchange.isLongRunning, Exchange.ownImports]
    have hbound := hown _ hspec
    simpa only [ClientImport.boundName_eq] using hbound
  have hsignature := h.lead_signature hname (gap_params hexchange hmem)
    (h.lead_results hname hexchange hmem hstub hlong)
  have hstream : Lead (common ++ types) s!"var resp {client.streamType call}" :=
    (Gap.ofList (by decide)).append (h.lead_streamType hname hstub)
  have hbody : Cites (common ++ types) (client.methodBody call) := by
    unfold methodBody
    unfold params results at hsignature
    cases hx : call.exchange with
    | unary request response =>
      rw [hx] at hsignature hexchange hmem
      exact .block hsignature
        (cites_answer hname (lead_var hexchange.2 (hmem _ (by simp [Exchange.typeImports])))
        (.ofList (by decide)) (.ofList (by decide)))
    | acknowledged request =>
      rw [hx] at hsignature
      refine .block hsignature (.flatten ?_)
      simp only [List.forall_mem_cons]
      exact ⟨cites_callSetup hname,
        cites_invoke client hname (.ofList (by decide)) (.ofList (by decide)),
        .literal (by decide), by simp⟩
    | longRunning request operation =>
      rw [hx] at hsignature hexchange hmem hlong
      have hextra : ["longrunning"] ⊆ types := by simpa using hlong rfl
      have hafter : Lead ((common ++ ["longrunning"]) ++ types)
          "return longrunning.InternalNewOperation(c.LROClient, resp), nil" := .ofList (by decide)
      exact .block hsignature
        (cites_answer hname (lead_var hexchange.2 (hmem _ (by simp [Exchange.typeImports])))
        (.ofList (by decide)) (hafter.mono (subset_of_extra hextra)))
    | serverStream request | clientStream =>
      rw [hx] at hsignature
      exact .block hsignature (cites_answer hname hstream (.ofList (by decide)) (.ofList (by decide)))
    | paged request response element field =>
      rw [hx] at hsignature hexchange hmem hown helement
      have hpaged : ["math", "proto", "iterator"] ⊆ types := by
        simp only [Exchange.ownImports, List.forall_mem_cons, ClientImport.boundName_eq] at hown
        simp [hown]
      exact .block hsignature (cites_pagedParts client hname hexchange.1 hexchange.2.1
        hexchange.2.2.iterator
        (hmem _ (by simp [Exchange.typeImports])) (hmem _ (by simp [Exchange.typeImports]))
        (helement element rfl) hpaged)
  exact (cites_methodComment call).cons (hbody.cons Cites.blank.single)

end Spelled

/-- The declaration of an iterator refers to the package of iterators and to that of the
elements. -/
theorem cites_declaration {element : Element} (hiterator : IsName element.iterator)
    (helement : Lead (common ++ types) element.goType) (hmem : "iterator" ∈ types) :
    Cites (common ++ types) element.declaration := by
  have hsub : (common ++ ["iterator"]) ++ types ⊆ common ++ types :=
    subset_of_extra (by simpa using hmem)
  have hname := hiterator.isOrdinary
  have hremark : Remark s!"// {element.iterator} manages a stream of {element.goType}." :=
    ((((Remark.ofList (by decide)).append _).append _).append _).append _
  have hstruct : Lead (common ++ types) s!"type {element.iterator} struct " :=
    ((Lead.ofList (by decide)).name hname).literal (by decide)
  have hitems : Lead (common ++ types) s!"items    []{element.goType}" :=
    (Gap.ofList (by decide)).append helement
  have hfetch :
      Lead (common ++ types)
        s!"InternalFetch func(pageSize int, pageToken string) (results []{element.goType}, nextPageToken string, err error)" :=
    ((Gap.ofList (by decide)).append helement).literal (by decide)
  have hpageInfo :
      Lead ((common ++ ["iterator"]) ++ types)
        s!"func (it *{element.iterator}) PageInfo() *iterator.PageInfo " :=
    ((Lead.ofList (by decide)).name hname).literal (by decide)
  have hnext :
      Lead (common ++ types) s!"func (it *{element.iterator}) Next() ({element.goType}, error) " :=
    ((((Lead.ofList (by decide)).name hname).gap (l := ") Next() (".toList) (by decide)).append
      helement).literal (by decide)
  have hitem : Lead (common ++ types) s!"var item {element.goType}" :=
    (Gap.ofList (by decide)).append helement
  have hcheck :
      Cites (common ++ types) (block "if err := it.nextFunc(); err != nil "
        [line "return item, err"]) :=
    .block (.ofList (by decide)) (Cites.literal (by decide)).single
  have hbufLen : Lead (common ++ types) s!"func (it *{element.iterator}) bufLen() int " :=
    ((Lead.ofList (by decide)).name hname).literal (by decide)
  have htakeBuf :
      Lead (common ++ types) s!"func (it *{element.iterator}) takeBuf() interface\x7b\x7d " :=
    ((Lead.ofList (by decide)).name hname).literal (by decide)
  refine .flatten ?_
  simp only [List.forall_mem_cons]
  refine ⟨?_, ?_, ?_, ?_, ?_, by simp⟩
  · refine (Cites.remark hremark).cons ((Cites.block hstruct (.flatten ?_)).cons Cites.blank.single)
    simp only [List.forall_mem_cons]
    exact ⟨.line hitems, (Cites.literal (by decide)).mono hsub, .literal (by decide), .blank,
      .remark (.ofList (by decide)), .remark (.ofList (by decide)), .remark (.ofList (by decide)),
      .remark (.ofList (by decide)), .remark (.ofList (by decide)), .remark (.ofList (by decide)),
      .line hfetch, by simp⟩
  · exact (Cites.remark (.ofList (by decide))).cons
      ((Cites.block (hpageInfo.mono hsub) (Cites.literal (by decide)).single).cons Cites.blank.single)
  · refine (Cites.remark (.ofList (by decide))).cons ((Cites.remark (.ofList (by decide))).cons
      ((Cites.block hnext (.flatten ?_)).cons Cites.blank.single))
    simp only [List.forall_mem_cons]
    exact ⟨.line hitem, hcheck, .literal (by decide), .literal (by decide),
      .literal (by decide), by simp⟩
  · exact (Cites.block hbufLen (Cites.literal (by decide)).single).cons Cites.blank.single
  · exact (Cites.block htakeBuf ((Cites.literal (by decide)).cons ((Cites.literal (by decide)).cons
      (Cites.literal (by decide)).single))).cons Cites.blank.single

theorem dotless_of_mem_scalars : ∀ goType ∈ PageElement.scalars.map Prod.fst,
    '"' ∉ goType.toList ∧ '.' ∉ goType.toList := by
  decide

theorem cut_render {type : GoType} (h : IsName type.spec.name) :
    cut '.' type.render = some (type.spec.name, type.name) :=
  cut_eq_some_iff.mpr ⟨fun hc => ne_dot_of_isOrdinary (h.isOrdinary _ hc) rfl, rfl⟩

theorem type_named {element : Element} {type : GoType} (h : element.Named)
    (hspec : IsName type.spec.name)
    (hgoType : element.goType = "*" ++ type.render) : type.Named := by
  obtain ⟨other, hother, ho⟩ | hscalar := h.goType
  · -- both types begin with the name of their package and a dot
    have hrender : type.render = other.render :=
      (String.append_right_inj _).mp (hgoType.symm.trans ho)
    have hcut := cut_render hspec
    rw [hrender, cut_render hother.spec, Option.some_inj, Prod.mk.injEq] at hcut
    exact ⟨hspec, hcut.2 ▸ hother.name⟩
  · have hdot := (dotless_of_mem_scalars _ hscalar).2
    rw [hgoType] at hdot
    exact absurd (by simp [GoType.render]) hdot

/-- The type of page elements is one of an imported package or a basic one. -/
theorem lead_goType {element : Element} {page : PageElement} {names : List String} (h : element.Named)
    (hpage : ∃ field, PageElement.ofField field = .ok page)
    (hresolve : Element.resolve catalog page = .ok element)
    (hmem : ∀ spec ∈ element.imports, spec.name ∈ names) : Lead names element.goType := by
  cases page with
  | scalar goType stem =>
    obtain ⟨field, hfield⟩ := hpage
    cases hresolve
    have hdotless := dotless_of_mem_scalars goType
      (List.mem_map_of_mem (PageElement.mem_scalars_of_ofField hfield))
    exact .ofDotless hdotless.1 hdotless.2
  | message typeName =>
    obtain ⟨type, _, rfl⟩ := Element.resolve_message_eq_ok_iff.mp hresolve
    have hstar : Gap ([] ++ names) "*" := .ofList (by decide)
    have hnamed : type.Named := type_named h (h.imports _ List.mem_cons_self) rfl
    exact hstar.append (hnamed.lead (hmem _ List.mem_cons_self))

def boundNames (client : Client) : List String := client.imports.specs.map (·.boundName)

theorem boundName_mem_of_ownImports {spec : ImportSpec} (h : spec ∈ client.ownImports) :
    spec.boundName ∈ client.boundNames :=
  List.mem_map_of_mem (mem_imports.mpr (.inl h))

theorem name_mem_boundNames (h : Resolved catalog options file service client) {spec : ImportSpec}
    (hs : spec ∈ client.typeImports) : spec.name ∈ client.boundNames := by
  rw [← boundName_of_mem_typeImports h hs]
  exact List.mem_map_of_mem (mem_imports.mpr (.inr hs))

theorem common_subset (client : Client) : common ⊆ locals ++ client.boundNames := by
  have hown : ∀ spec ∈ [ClientImport.context, ClientImport.gax, ClientImport.option,
    ClientImport.transport,
      ClientImport.grpc, ClientImport.metadata], spec.boundName ∈ client.boundNames := by
    intro spec hs
    refine boundName_mem_of_ownImports ?_
    rw [ownImports, List.flatten_cons]
    exact List.mem_append_left _ hs
  refine List.append_subset.mpr ⟨List.subset_append_left _ _,
    List.Subset.trans ?_ (List.subset_append_right _ _)⟩
  simpa [ClientImport.boundName_eq] using hown

theorem mem_ownImports_of_call {spec : ImportSpec} (hc : call ∈ client.calls)
    (hs : spec ∈ call.exchange.ownImports) : spec ∈ client.ownImports := by
  simp only [ownImports, List.flatten_cons, List.flatten_nil, List.append_nil, List.mem_append,
    List.mem_flatMap]
  exact .inr (.inr (.inr ⟨call, hc, hs⟩))

theorem retry_subset (h : client.service.methods.any RetryPolicy.isRetryable) :
    ["codes", "time"] ⊆ client.boundNames := by
  obtain ⟨method, hm, hretry⟩ := List.any_eq_true.mp h
  have hne : client.retries.isEmpty = false :=
    List.isEmpty_eq_false_iff_exists_mem.mpr
      ⟨(method.name, {}), mem_retries_iff.mpr ⟨rfl, method, hm, hretry, rfl⟩⟩
  have hown : ∀ spec ∈ [ClientImport.codes, ClientImport.time],
      spec.boundName ∈ client.boundNames := by
    intro spec hs
    refine boundName_mem_of_ownImports ?_
    simp only [ownImports, List.flatten_cons, List.mem_append]
    exact .inr (.inl (by simpa [hne] using hs))
  simpa [ClientImport.boundName_eq] using hown

theorem lroauto_mem (h : client.hasLongRunning) : "lroauto" ∈ client.boundNames := by
  have hown : ClientImport.lroauto ∈ client.ownImports := by simp [ownImports, h]
  simpa only [ClientImport.boundName_eq] using boundName_mem_of_ownImports hown

theorem iterator_mem (hc : call ∈ client.calls) {element : Element}
    (he : element ∈ call.exchange.element?) : "iterator" ∈ client.boundNames := by
  have hown : ClientImport.iterator ∈ call.exchange.ownImports := by
    revert he
    cases call.exchange <;> simp [Exchange.element?, Exchange.ownImports]
  simpa only [ClientImport.boundName_eq] using boundName_mem_of_ownImports
    (mem_ownImports_of_call hc hown)

theorem lead_element (h : Resolved catalog options file service client) (hn : client.Spelled)
    (hc : call ∈ client.calls) {element : Element} (he : element ∈ call.exchange.element?) :
    Lead (common ++ client.boundNames) element.goType := by
  obtain ⟨method, _, hcall⟩ := h.exists_method hc
  obtain ⟨shape, _, hexchange⟩ := hcall.exchange_eq
  have hresolved := Exchange.resolved_of_resolve hexchange
  have hnamed := hn.exchanges call hc
  have hmem : ∀ spec ∈ call.exchange.typeImports, spec.name ∈ client.boundNames := fun spec hs =>
    name_mem_boundNames h (List.mem_cons_of_mem _ (List.mem_flatMap.mpr ⟨call, hc, hs⟩))
  generalize call.exchange = exchange at *
  cases hresolved with
  | paged hpage _ _ helem =>
    cases he
    exact lead_goType hnamed.2.2 ⟨_, hpage⟩ helem fun spec hs =>
      List.mem_append_right _ (hmem spec (by simp [Exchange.typeImports, hs]))
  | unary | acknowledged | longRunning | serverStream | clientStream | bidiStream => cases he

theorem cites_segments (h : Resolved catalog options file service client) (hn : client.Spelled)
    (declared : List String) : Cites (common ++ client.boundNames)
    (client.segments declared).flatten := by
  have hstub : client.stub.name ∈ client.boundNames := name_mem_boundNames h List.mem_cons_self
  refine .flatten fun segment hs => ?_
  rw [segments, List.cons_append, List.mem_cons, List.mem_append, List.mem_map, List.mem_map] at hs
  obtain rfl | ⟨call, hc, rfl⟩ | ⟨element, he, rfl⟩ := hs
  · exact hn.cites_scaffold hstub retry_subset lroauto_mem
  · exact hn.cites_method (hn.calls call hc) (hn.exchanges call hc)
      (fun spec hs =>
        name_mem_boundNames h (List.mem_cons_of_mem _ (List.mem_flatMap.mpr ⟨call, hc, hs⟩)))
      hstub (fun spec hs => boundName_mem_of_ownImports (mem_ownImports_of_call hc hs))
      fun element he => lead_element h hn hc he
  · have hmem : element ∈ client.elements := (newElements_sublist _ _).subset he
    obtain ⟨call, hc, hexchange⟩ := List.mem_filterMap.mp hmem
    exact cites_declaration (hn.named_element hmem).iterator (lead_element h hn hc hexchange)
      (iterator_mem hc hexchange)

/-- A body refers to no package that is not imported. -/
theorem qualifiersOf_body_subset (h : Resolved catalog options file service client)
    (hn : client.Named)
    (declared : List String) : qualifiersOf (client.body declared) ⊆ locals ++ client.boundNames := by
  have hspelled := h.spelled hn
  rw [body_eq_written]
  have hsubset := (cites_segments h hspelled declared).qualifiersOf_subset
    (.flatten (hspelled.tidy_segments declared))
  refine List.Subset.trans hsubset (List.append_subset.mpr
    ⟨client.common_subset, List.subset_append_right _ _⟩)

end Client

end ClientGen
