import ClientGen.Proofs.Client.Named
import ClientGen.Proofs.Emitter.Items

namespace ClientGen.Client

open Text Code Emitter

variable {client : Client}

theorem newline_notMem_padding (n : Nat) : '\n' ∉ (String.ofList (List.replicate n ' ')).toList := by
  simp

/-- All policies are the default one, so that the block is there just if some method is tried
again. -/
theorem sharedRetry_eq (client : Client) : client.sharedRetry =
    if client.service.methods.any RetryPolicy.isRetryable then retryBlock {} else [] := by
  unfold sharedRetry
  cases hretries : client.retries with
  | nil =>
    have hnone : client.service.methods.any RetryPolicy.isRetryable = false := by
      rw [List.any_eq_false]
      intro method hm hretry
      have hmem : (method.name, {}) ∈ client.retries :=
        mem_retries_iff.mpr ⟨rfl, method, hm, hretry, rfl⟩
      rw [hretries] at hmem
      cases hmem
    rw [hnone]
    rfl
  | cons retry retries =>
    obtain ⟨hpolicy, method, hm, hretry, _⟩ := mem_retries_iff.mp (hretries ▸ List.mem_cons_self)
    rw [if_pos (List.any_eq_true.mpr ⟨method, hm, hretry⟩), ← hpolicy]

namespace Spelled

theorem typeName (h : client.Spelled) : IsName client.typeName :=
  (IsName.ofList (by decide)).prepend h.stem

theorem optionsType (h : client.Spelled) : IsName client.optionsType :=
  (IsName.ofList (by decide)).prepend h.stem

theorem methodName (h : client.Spelled) {name : String} (hn : name ∈ client.methodNames) :
    IsName name := by
  obtain ⟨method, hm, rfl⟩ := List.mem_map.mp hn
  exact h.methods method hm

theorem isOrdinary_stubField (client : Client) : ∀ c ∈ client.stubField.toList, isOrdinary c := by
  intro c hc
  unfold Client.stubField Naming.stubField at hc
  split at hc
  · exact List.all_eq_true.mp (by decide : "client".toList.all isOrdinary) c hc
  · rw [String.toList_append, List.mem_append] at hc
    obtain hc | hc := hc
    · exact isOrdinary_of_mem_lowerCamelCase hc
    · exact List.all_eq_true.mp (by decide : "Client".toList.all isOrdinary) c hc

theorem newline_notMem_stubField (client : Client) : '\n' ∉ client.stubField.toList :=
  newline_notMem_of_isOrdinary (isOrdinary_stubField client)

theorem front_stubField (client : Client) : Front client.stubField client.stubField.toList.head? := by
  refine ⟨starts_of_isOrdinary ?_ (isOrdinary_stubField client), rfl, newline_notMem_stubField client⟩
  unfold Client.stubField Naming.stubField
  split
  · decide
  · simp

theorem newline_notMem_label (h : client.Spelled) : '\n' ∉ client.label.toList := by
  intro hc
  rw [label, dropLeading, String.toList_ofList] at hc
  exact h.fullName.newline_notMem ((List.dropWhile_suffix _).subset hc)

theorem declares_optionsStruct (h : client.Spelled) :
    Declares client.optionsStruct [.global client.optionsType] := by
  have hremark :
      Declares (line
        s!"// {client.optionsType} contains the retry settings for each method of {client.typeName}.") [] :=
    .remark ((((Front.ofList (by decide)).name h.optionsType).literal (by decide)).name h.typeName)
      (by decide)
  have hhead : Heads s!"type {client.optionsType} struct "
      (.global client.optionsType) := by
    refine ⟨((Front.ofList (by decide)).name h.optionsType).head (by decide), ?_⟩
    exact Item.ofLine?_global "type " " struct \x7b".toList (by decide) h.optionsType
      (by simp [Item.isNamePart_of_mem])
      (by simp [toString])
  have hfields : Tidy (lines (client.methodNames.map fun name =>
      padded (widest client.methodNames) name ++ " []gax.CallOption")) := by
    refine .lines fun text ht => ?_
    obtain ⟨name, hn, rfl⟩ := List.mem_map.mp ht
    exact ((Front.ofName (h.methodName hn)).append (newline_notMem_padding _)).line (by decide)
  exact hremark.cons ((Declares.block hhead hfields.single).cons Declares.blank.single)

theorem newline_notMem_stem (h : client.Spelled) : '\n' ∉ client.stem.toList :=
  newline_notMem_of_isOrdinary fun c hc => isOrdinary_of_isNamePart (h.stem c hc)

/-- What the function is called that gives the default options of a connection. -/
theorem clientOptionsName (h : client.Spelled) :
    IsName ("default" ++ client.stem ++ "ClientOptions") :=
  (IsName.append (.ofList (by decide)) h.stem).literal (by decide)

theorem authScopesName (h : client.Spelled) : IsName ("Default" ++ client.stem ++ "AuthScopes") :=
  (IsName.append (.ofList (by decide)) h.stem).literal (by decide)

theorem callOptionsName (h : client.Spelled) : IsName ("default" ++ client.optionsType) :=
  IsName.append (.ofList (by decide)) h.optionsType.2

theorem constructorName (h : client.Spelled) : IsName ("New" ++ client.typeName) :=
  IsName.append (.ofList (by decide)) h.typeName.2

theorem declares_clientOptions (h : client.Spelled) :
    Declares client.clientOptions [.global ("default" ++ client.stem ++ "ClientOptions")] := by
  have hhead : Heads s!"func default{client.stem}ClientOptions() []option.ClientOption "
      (.global ("default" ++ client.stem ++ "ClientOptions")) := by
    refine ⟨((Front.ofList (by decide)).append h.newline_notMem_stem).head (by decide), ?_⟩
    exact Item.ofLine?_global "func " "() []option.ClientOption \x7b".toList (by decide)
      h.clientOptionsName
      (by simp [Item.isNamePart_of_mem]) (by simp [toString])
  have hendpoint : Tidy (line s!"option.WithEndpoint({quoted client.endpoint}),") :=
    .line (((Front.ofList (by decide)).append (newline_notMem_quoted _)).line (by decide))
  have hscopes : Tidy (when client.hasScopes [
      line s!"option.WithScopes(Default{client.stem}AuthScopes()...),"]) :=
    .when (Tidy.line (((Front.ofList (by decide)).append h.newline_notMem_stem).line
      (by decide))).single
  have hreturn : IsLine 0 1 ("return []option.ClientOption" ++ "\x7b") := .brace (by decide)
  exact (Declares.block hhead (Tidy.block hreturn (hendpoint.cons hscopes.single)).single).cons
    Declares.blank.single

theorem declares_authScopes (h : client.Spelled) : Declares client.authScopes
    (if client.hasScopes then [.global ("Default" ++ client.stem ++ "AuthScopes")] else []) := by
  have hremark :
      Declares (line
        s!"// Default{client.stem}AuthScopes reports the default set of authentication scopes to use with this package.") [] :=
    .remark ((Front.ofList (by decide)).append h.newline_notMem_stem) (by decide)
  have hhead : Heads s!"func Default{client.stem}AuthScopes() []string "
      (.global ("Default" ++ client.stem ++ "AuthScopes")) := by
    refine ⟨((Front.ofList (by decide)).append h.newline_notMem_stem).head (by decide), ?_⟩
    exact Item.ofLine?_global "func " "() []string \x7b".toList (by decide) h.authScopesName
      (by simp [Item.isNamePart_of_mem])
      (by simp [toString])
  have hscopes : Tidy (lines (client.service.oauthScopes.map fun scope => quoted scope ++ ",")) := by
    refine .lines fun text ht => ?_
    obtain ⟨scope, _, rfl⟩ := List.mem_map.mp ht
    exact (Front.ofQuoted scope).line (by decide)
  have hreturn : IsLine 0 1 ("return []string" ++ "\x7b") := .brace (by decide)
  exact .when (hremark.cons ((Declares.block hhead (Tidy.block hreturn hscopes.single).single).cons
    Declares.blank.single))

/-- A client has no other block of retries than the default one. -/
theorem tidy_sharedRetry (client : Client) : Tidy client.sharedRetry := by
  rw [sharedRetry_eq]
  split
  · have hblock : Tidy (retryBlock {}) := by decide
    exact hblock
  · exact .nil

theorem newline_notMem_callOption (client : Client) (name : String) :
    '\n' ∉ (client.callOption name).toList := by
  unfold callOption
  split
  all_goals decide

theorem declares_callOptions (h : client.Spelled) :
    Declares client.callOptions [.global ("default" ++ client.optionsType)] := by
  have hhead : Heads s!"func default{client.optionsType}() *{client.optionsType} "
      (.global ("default" ++ client.optionsType)) := by
    refine ⟨((((Front.ofList (by decide)).name h.optionsType).literal (by decide)).name
      h.optionsType).head (by decide), ?_⟩
    exact Item.ofLine?_global "func " ("() *".toList ++ (client.optionsType.toList ++ " \x7b".toList))
      (by decide)
      h.callOptionsName (by simp [Item.isNamePart_of_mem]) (by simp [toString])
  have hreturn : IsLine 0 1 (s!"return &{client.optionsType}" ++ "\x7b") :=
    ((Front.ofList (by decide)).name h.optionsType).openLine
      (openers_of_ends (ends_append h.optionsType.ends _))
  have hfields : Tidy (lines (client.methodNames.map fun name =>
      padded (widest (client.methodNames.map (· ++ ":"))) (name ++ ":") ++ " " ++
        client.callOption name ++ ",")) := by
    refine .lines fun text ht => ?_
    obtain ⟨name, hn, rfl⟩ := List.mem_map.mp ht
    have hfront := ((Front.ofName (h.methodName hn)).literal (l := [':']) (by decide)).append
      (newline_notMem_padding (widest (client.methodNames.map (· ++ ":")) - (name ++ ":").length))
    exact ((hfront.literal (l := [' ']) (by decide)).append
      (newline_notMem_callOption client name)).line (by decide)
  exact (Declares.block hhead ((tidy_sharedRetry client).cons
    (Tidy.block hreturn hfields.single).single)).cons Declares.blank.single

theorem declares_serviceComment (client : Client) : Declares client.serviceComment [] := by
  unfold serviceComment
  split
  · exact .nil
  · rename_i text _
    have hslashes : Declares (line "//") [] := .literal (by decide)
    refine (Declares.when (hslashes.cons (Declares.comment _).single)).of_eq ?_
    split <;> rfl

theorem declares_clientStruct (h : client.Spelled) :
    Declares client.clientStruct [.global client.typeName] := by
  have hremark :
      Declares (line s!"// {client.typeName} is a client for interacting with {client.label}.") [] :=
    .remark ((((Front.ofList (by decide)).name h.typeName).literal (by decide)).append
      h.newline_notMem_label) (by decide)
  have hhead : Heads s!"type {client.typeName} struct "
      (.global client.typeName) := by
    refine ⟨((Front.ofList (by decide)).name h.typeName).head (by decide), ?_⟩
    exact Item.ofLine?_global "type " " struct \x7b".toList (by decide) h.typeName
      (by simp [Item.isNamePart_of_mem])
      (by simp [toString])
  have hstub : IsLine 0 0 s!"{client.stubField} {client.stub.name}.{client.service.name}Client" :=
    (((((front_stubField client).literal (l := [' ']) (by decide)).name h.stub).literal (l := ['.'])
      (by decide)).name h.service).line (by decide)
  have hoptions : IsLine 0 0 s!"CallOptions *{client.optionsType}" :=
    (Front.ofList (by decide)).last h.optionsType.newline_notMem h.optionsType.ends
  have hlong : Tidy (when client.hasLongRunning [
      line "// LROClient is used internally to handle long-running operations.",
      line "// It is exposed so that its CallOptions can be modified if required.",
      line "// Users should not Close this client.",
      line "LROClient *lroauto.OperationsClient",
      blank]) := by
    refine .when (.flatten ?_)
    simp only [List.forall_mem_cons]
    refine ⟨?_, ?_, ?_, ?_, .blank, by simp⟩
    all_goals exact .literal (by decide)
  refine hremark.cons ((declares_serviceComment client).cons
    ((Declares.block hhead (.flatten ?_)).cons Declares.blank.single))
  simp only [List.forall_mem_cons]
  refine ⟨?_, ?_, .blank, ?_, .line hstub, .blank, hlong, ?_, .line hoptions, .blank, ?_, ?_, by simp⟩
  all_goals exact .literal (by decide)

theorem tidy_returnOnError {result : String} (h : '\n' ∉ result.toList) :
    Tidy (returnOnError result) :=
  .block (.brace (by decide))
    (Tidy.line (((Front.ofList (by decide)).append h).line (by decide))).single

theorem declares_constructor (h : client.Spelled) :
    Declares client.constructor [.global ("New" ++ client.typeName)] := by
  have hremark :
      Declares (line s!"// New{client.typeName} creates a new {client.service.name} client.") [] :=
    .remark ((((Front.ofList (by decide)).name h.typeName).literal (by decide)).name h.service)
      (by decide)
  have hhead :
    Heads s!"func New{client.typeName}(ctx context.Context, opts ...option.ClientOption) (*{client.typeName}, error) "
      (.global ("New" ++ client.typeName)) := by
    refine ⟨((((Front.ofList (by decide)).name h.typeName).literal (by decide)).name h.typeName).head
      (by decide), ?_⟩
    exact Item.ofLine?_global "func "
      ("(ctx context.Context, opts ...option.ClientOption) (*".toList ++
      (client.typeName.toList ++ ", error) \x7b".toList)) (by decide)
      h.constructorName (by simp [Item.isNamePart_of_mem]) (by simp [toString])
  have hdial :
      IsLine 0 0 s!"conn, err := transport.DialGRPC(ctx, append(default{client.stem}ClientOptions(), opts...)...)" :=
    ((Front.ofList (by decide)).append h.newline_notMem_stem).line (by decide)
  have hcreate : IsLine 0 1 (s!"c := &{client.typeName}" ++ "\x7b") :=
    ((Front.ofList (by decide)).name h.typeName).openLine
      (openers_of_ends (ends_append h.typeName.ends _))
  have hconn (width : Nat) : IsLine 0 0 (padded width "conn:" ++ " conn,") :=
    ((Front.ofList (by decide)).append (newline_notMem_padding _)).line (by decide)
  have hoptions (width : Nat) :
      IsLine 0 0 (padded width "CallOptions:" ++ s!" default{client.optionsType}(),") := by
    have hflat : '\n' ∉ s!" default{client.optionsType}(),".toList := by
      simp [toString, h.optionsType.newline_notMem]
    exact ((Front.ofList (by decide)).append (newline_notMem_padding _)).last hflat
      (ends_append (ends_ofList (by decide)) _)
  have hstub :
      IsLine 0 0 s!"{client.stubField}: {client.stub.name}.New{client.service.name}Client(conn)," :=
    (((((front_stubField client).literal (l := [':', ' ']) (by decide)).name h.stub).literal
      (l := ".New".toList) (by decide)).name h.service).line (by decide)
  have hlong : Tidy (when client.hasLongRunning [
      blank,
      line "c.LROClient, err = lroauto.NewOperationsClient(ctx, option.WithGRPCConn(conn))",
      block "if err != nil " [
        line "// The connection is reused, so no dial happens and conn is not closed here.",
        line "return nil, err"]]) := by
    have hcheck : Tidy (block "if err != nil " [
        line "// The connection is reused, so no dial happens and conn is not closed here.",
        line "return nil, err"]) :=
      .block (.brace (by decide)) ((Tidy.literal (by decide)).cons (Tidy.literal (by decide)).single)
    exact .when (Tidy.blank.cons ((Tidy.literal (by decide)).cons hcheck.single))
  refine hremark.cons ((Declares.block hhead (.flatten ?_)).cons Declares.blank.single)
  simp only [List.forall_mem_cons]
  refine ⟨.line hdial, tidy_returnOnError (by decide), .block hcreate (.flatten ?_),
    .literal (by decide), hlong, .literal (by decide), by simp⟩
  simp only [List.forall_mem_cons]
  exact ⟨.line (hconn _), .line (hoptions _), .blank, .line hstub, by simp⟩

theorem declares_connection (h : client.Spelled) :
    Declares client.connection [.method client.typeName "Connection"] := by
  have hhead : Heads s!"func (c *{client.typeName}) Connection() *grpc.ClientConn "
      (.method client.typeName "Connection") := by
    refine ⟨((Front.ofList (by decide)).name h.typeName).head (by decide), ?_⟩
    exact Item.ofLine?_method ['c'] "() *grpc.ClientConn \x7b".toList (by decide) h.typeName
      (.ofList (by decide))
      (by simp [Item.isNamePart_of_mem]) (by simp [toString])
  have hremark :
      Declares (line "// Connection returns the client's connection to the API service.") [] :=
    .literal (by decide)
  exact hremark.cons ((Declares.block hhead (Tidy.literal (by decide)).single).cons
    Declares.blank.single)

theorem declares_close (h : client.Spelled) :
    Declares client.close [.method client.typeName "Close"] := by
  have hhead : Heads s!"func (c *{client.typeName}) Close() error "
      (.method client.typeName "Close") := by
    refine ⟨((Front.ofList (by decide)).name h.typeName).head (by decide), ?_⟩
    exact Item.ofLine?_method ['c'] "() error \x7b".toList (by decide) h.typeName
      (.ofList (by decide)) (by simp [Item.isNamePart_of_mem])
      (by simp [toString])
  have hfirst :
      Declares (line
        "// Close closes the connection to the API service. The user should invoke this when") [] :=
    .literal (by decide)
  have hsecond : Declares (line "// the client is no longer required.") [] := .literal (by decide)
  exact hfirst.cons (hsecond.cons ((Declares.block hhead (Tidy.literal (by decide)).single).cons
    Declares.blank.single))

theorem declares_clientInfo (h : client.Spelled) :
    Declares client.clientInfo [.method client.typeName "setGoogleClientInfo"] := by
  have hhead : Heads s!"func (c *{client.typeName}) setGoogleClientInfo(keyval ...string) "
      (.method client.typeName "setGoogleClientInfo") := by
    refine ⟨((Front.ofList (by decide)).name h.typeName).head (by decide), ?_⟩
    exact Item.ofLine?_method ['c'] "(keyval ...string) \x7b".toList (by decide) h.typeName
      (.ofList (by decide))
      (by simp [Item.isNamePart_of_mem]) (by simp [toString])
  have hfirst :
      Declares (line "// setGoogleClientInfo sets the name and version of the application in") [] :=
    .literal (by decide)
  have hsecond :
      Declares (line "// the `x-goog-api-client` header passed on each request. Intended for") [] :=
    .literal (by decide)
  have hthird : Declares (line "// use by Google-written clients.") [] := .literal (by decide)
  refine hfirst.cons (hsecond.cons (hthird.cons ((Declares.block hhead (.flatten ?_)).cons
    Declares.blank.single)))
  simp only [List.forall_mem_cons]
  refine ⟨?_, ?_, ?_, by simp⟩
  all_goals exact .literal (by decide)

end Spelled

def scaffoldItems (client : Client) : List Item :=
  [.global client.optionsType, .global ("default" ++ client.stem ++ "ClientOptions")] ++
    (if client.hasScopes then [.global ("Default" ++ client.stem ++ "AuthScopes")] else []) ++
    [.global ("default" ++ client.optionsType), .global client.typeName,
      .global ("New" ++ client.typeName), .method client.typeName "Connection",
      .method client.typeName "Close", .method client.typeName "setGoogleClientInfo"]

theorem Spelled.declares_scaffold (h : client.Spelled) :
    Declares client.scaffold client.scaffoldItems := by
  refine (h.declares_optionsStruct.cons (h.declares_clientOptions.cons (h.declares_authScopes.cons
    (h.declares_callOptions.cons (h.declares_clientStruct.cons (h.declares_constructor.cons
      (h.declares_connection.cons (h.declares_close.cons h.declares_clientInfo.single)))))))).of_eq ?_
  simp [scaffoldItems]

end ClientGen.Client
