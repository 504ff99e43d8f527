import ClientGen.Proofs.Client.Iterators
import ClientGen.Proofs.Client.Qualifiers
import ClientGen.Proofs.Import.Rows

namespace ClientGen

open Schema Text

namespace Code

def endsInName (text : String) : Bool :=
  text.toList.getLast?.any isChain

/-- A row of code that puts the name of an imported package before that of a member. -/
def Names (row : String) (spec : ImportSpec) : Prop :=
  ∃ before after, row = before ++ (spec.boundName ++ "." ++ after) ∧ endsInName before = false ∧
    isCommentLine row.toList = false

def begins (text : String) : Bool :=
  text.toList.head?.any isSolid

/-- A line of code that names a member of an imported package, which a reader of the line finds if
its names are well formed. -/
structure Mentions (formed : Prop) (text : String) (spec : ImportSpec) : Prop where
  front : begins text
  exists_eq : ∃ before after, text = before ++ (spec.boundName ++ "." ++ after) ∧
    endsInName before = false ∧ (formed → Place.code.after before.toList = .code ∧
      (outside .code before.toList).getLast?.any isChain = false ∧ after.toList.head?.any isOrdinary)

def Refers (formed : Prop) (code : Code) (spec : ImportSpec) : Prop :=
  ∃ text, .line text ∈ code ∧ Mentions formed text spec

variable {formed : Prop} {spec : ImportSpec} {code more : Code}
  {text before after a b : String} {c : Char} {l : List Char} {level : Nat}

-- A literal unfolds to the list of its characters, which is faster than to decode it.
theorem begins_ofList (h : l.head?.any isSolid) : begins (.ofList l) := by
  rw [begins, String.toList_ofList]
  exact h

theorem exists_of_begins (h : begins text) : ∃ c cs, text.toList = c :: cs ∧ isSolid c := by
  unfold begins at h
  cases hl : text.toList with
  | nil =>
    rw [hl] at h
    cases h
  | cons c cs =>
    rw [hl] at h
    exact ⟨c, cs, rfl, h⟩

theorem begins_append (h : begins a) (b : String) : begins (a ++ b) := by
  obtain ⟨c, cs, hl, hc⟩ := exists_of_begins h
  rw [begins, String.toList_append, hl]
  exact hc

theorem trim_of_begins (h : begins text) : trim text.toList = trimEnd text.toList := by
  obtain ⟨c, cs, hl, hc⟩ := exists_of_begins h
  rw [trim, trimStart, hl, List.dropWhile_cons_of_neg (by simp [isBlank_of_isSolid hc])]

theorem isCommentLine_of_begins (h : begins text) (level : Nat) :
    isCommentLine (List.replicate level '\t' ++ trim text.toList) = false := by
  have htrim := trim_of_begins h
  obtain ⟨c, cs, hl, hc⟩ := exists_of_begins h
  have hend : trimEnd (c :: cs) = c :: trimEnd cs :=
    trimEnd_append_cons (a := []) (isBlank_of_isSolid hc)
  have htab : (c == '\t') = false := by
    rw [beq_eq_false_iff_ne]
    rintro rfl
    revert hc
    decide
  have hslash : ('/' == c) = false := beq_false_of_ne (ne_slash_of_isSolid hc).symm
  rw [htrim, hl, hend, isCommentLine, List.dropWhile_append_of_pos (by simp),
    List.dropWhile_cons_of_neg (by simp [htab])]
  change (('/' == c) && _) = false
  rw [hslash, Bool.false_and]

theorem not_isChain_of_mem : ∀ c ∈ [' ', '*', ']'], isChain c = false := by
  have hall : [' ', '*', ']'].all (!isChain ·) := by decide
  simpa using hall

theorem endsInName_ofList (h : l.getLast? = some c) (hc : c ∈ [' ', '*', ']']) :
    endsInName (.ofList l) = false := by
  rw [endsInName, String.toList_ofList, h]
  exact not_isChain_of_mem c hc

theorem endsInName_append (h : b.toList.getLast? = some c) (hc : c ∈ [' ', '*', ']']) :
    endsInName (a ++ b) = false := by
  rw [endsInName, String.toList_append, List.getLast?_append, h]
  exact not_isChain_of_mem c hc

/-- A mention with no quote before it. -/
theorem Mentions.intro (before after : String)
    (ht : text = before ++ (spec.boundName ++ "." ++ after))
    (hb : endsInName before = false) (h : begins text)
    (hf : formed → '"' ∉ before.toList ∧ after.toList.head?.any isOrdinary) :
    Mentions formed text spec := by
  refine ⟨h, before, after, ht, hb, fun hformed => ?_⟩
  obtain ⟨hquote, hafter⟩ := hf hformed
  rw [after_of_notMem hquote, outside_of_notMem hquote]
  exact ⟨rfl, hb, hafter⟩

/-- A mention between literal texts. -/
theorem Mentions.literal (l m : List Char)
    (ht : text = .ofList l ++ (spec.boundName ++ "." ++ .ofList m)) (h : begins text)
    (hl : Place.code.after l == .code && !l.getLast?.any isChain &&
      !(outside .code l).getLast?.any isChain)
    (hm : m.head?.any isOrdinary) : Mentions formed text spec := by
  simp only [Bool.and_eq_true, beq_iff_eq, Bool.not_eq_true'] at hl
  obtain ⟨⟨hafter, hb⟩, hapart⟩ := hl
  refine ⟨h, .ofList l, .ofList m, ht, ?_, fun _ => ?_⟩
  · rw [endsInName, String.toList_ofList, hb]
  · rw [String.toList_ofList, String.toList_ofList]
    exact ⟨hafter, hapart, hm⟩

theorem Mentions.append (h : Mentions formed a spec) (b : String) :
    Mentions formed (a ++ b) spec := by
  obtain ⟨hfront, before, after, rfl, hb, hf⟩ := h
  refine ⟨begins_append hfront b, before, after ++ b, ?_, hb, fun hformed => ?_⟩
  · simp only [String.append_assoc]
  · obtain ⟨hplace, hapart, hafter⟩ := hf hformed
    refine ⟨hplace, hapart, ?_⟩
    cases hl : after.toList with
    | nil =>
      rw [hl] at hafter
      cases hafter
    | cons c cs =>
      rw [hl] at hafter
      rwa [String.toList_append, hl]

theorem Mentions.imp {other : Prop} (h : Mentions formed text spec) (ho : other → formed) :
    Mentions other text spec := by
  obtain ⟨hfront, before, after, ht, hb, hf⟩ := h
  exact ⟨hfront, before, after, ht, hb, fun hother => hf (ho hother)⟩

theorem Refers.imp {other : Prop} (h : code.Refers formed spec) (ho : other → formed) :
    code.Refers other spec := by
  obtain ⟨text, ht, hmentions⟩ := h
  exact ⟨text, ht, hmentions.imp ho⟩

theorem Refers.mono (h : code ⊆ more) (hr : code.Refers formed spec) : Refers formed more spec := by
  obtain ⟨text, ht, hn⟩ := hr
  exact ⟨text, h ht, hn⟩

/-- A line of code is written on a row, which says the same. -/
theorem Refers.exists_row (h : code.Refers formed spec) (level : Nat) :
    ∃ row ∈ Emitter.printed level code, Names row spec ∧ (formed → IsName spec.boundName →
      spec.boundName.toList.any (!·.isDigit) → spec.boundName ∈ qualifiers row.toList) := by
  obtain ⟨text, ht, hfront, before, after, rfl, hb, hf⟩ := h
  generalize htext : before ++ (spec.boundName ++ "." ++ after) = text at ht hfront
  have hne : ¬IsBlankText text.toList := by
    obtain ⟨c, cs, hl, hc⟩ := exists_of_begins hfront
    intro hblank
    have hc' := hblank c (by rw [hl]; exact List.mem_cons_self)
    rw [isBlank_of_isSolid hc] at hc'
    cases hc'
  obtain ⟨row, hrow, depth, rfl⟩ := Emitter.exists_row_of_mem ht hne level
  have hlist :
      (Emitter.tabs depth ++ trimmed text).toList = List.replicate depth '\t' ++
        trim text.toList := by
    simp [Emitter.tabs, trimmed]
  refine ⟨_, hrow, ⟨Emitter.tabs depth ++ before, .ofList (trimEnd after.toList), ?_, ?_, ?_⟩,
    fun hformed hname hletter => ?_⟩
  · have htrim :
        trim text.toList = (before.toList ++ spec.boundName.toList) ++ '.' ::
          trimEnd after.toList := by
      have hsplit :
          text.toList = (before.toList ++ spec.boundName.toList) ++ '.' :: after.toList := by
        simp [← htext]
      rw [trim_of_begins hfront, hsplit, trimEnd_append_cons (by decide)]
    rw [← String.toList_inj, hlist, htrim]
    simp [Emitter.tabs]
  · rw [endsInName, String.toList_append, List.getLast?_append]
    unfold endsInName at hb
    cases hlast : before.toList.getLast? with
    | none =>
      rw [Option.none_or, Emitter.tabs, String.toList_ofList, List.getLast?_replicate]
      split <;> decide
    | some c =>
      rw [hlast] at hb
      exact hb
  · rw [hlist]
    exact isCommentLine_of_begins hfront depth
  · obtain ⟨hplace, hapart, hafter⟩ := hf hformed
    rw [hlist, qualifiers_row, ← htext]
    exact mem_qualifiers hplace hapart hname.isOrdinary hletter hafter

end Code

namespace Client

variable {catalog : Catalog} {options : Options} {file : File} {service : Service} {client : Client}
  {spec : ImportSpec} {call : Call} {method : Method} {shape : CallShape}

open Code
open ClientImport (boundName_eq)

theorem subset_seq {parts : List Code} {part : Code} (hp : part ∈ parts) : part ⊆ seq parts :=
  fun _ ht => List.mem_flatten_of_mem hp ht

theorem refers_gax (client : Client) : client.clientInfo.Refers formed ClientImport.gax := by
  refine ⟨"c.xGoogMetadata = metadata.Pairs(\"x-goog-api-client\", gax.XGoogHeader(kv...))", ?_, ?_⟩
  · simp [clientInfo, seq, block, line]
  · exact .literal "c.xGoogMetadata = metadata.Pairs(\"x-goog-api-client\", ".toList
      "XGoogHeader(kv...))".toList (by simp [boundName_eq]) (begins_ofList (by decide))
        (by decide) (by decide)

theorem refers_metadata (client : Client) :
    client.clientStruct.Refers formed ClientImport.metadata := by
  refine ⟨"xGoogMetadata metadata.MD", ?_, ?_⟩
  · simp [clientStruct, seq, block, line]
  · exact .literal "xGoogMetadata ".toList "MD".toList (by simp [boundName_eq])
      (begins_ofList (by decide)) (by decide) (by decide)

theorem refers_grpc (client : Client) : client.clientStruct.Refers formed ClientImport.grpc := by
  refine ⟨"conn *grpc.ClientConn", ?_, ?_⟩
  · simp [clientStruct, seq, block, line]
  · exact .literal "conn *".toList "ClientConn".toList (by simp [boundName_eq])
      (begins_ofList (by decide)) (by decide) (by decide)

theorem refers_option (client : Client) : client.clientOptions.Refers formed ClientImport.option := by
  have hmentions : Mentions formed "return []option.ClientOption" ClientImport.option :=
    .literal "return []".toList "ClientOption".toList (by simp [boundName_eq])
      (begins_ofList (by decide)) (by decide) (by decide)
  refine ⟨"return []option.ClientOption" ++ "\x7b", ?_, hmentions.append _⟩
  simp [clientOptions, seq, block]

theorem refers_transport (client : Client) :
    client.constructor.Refers formed ClientImport.transport := by
  have hmentions :
      Mentions formed "conn, err := transport.DialGRPC(ctx, append(default" ClientImport.transport :=
    .literal "conn, err := ".toList "DialGRPC(ctx, append(default".toList (by simp [boundName_eq])
      (begins_ofList (by decide)) (by decide) (by decide)
  refine ⟨_, ?_, (hmentions.append client.stem).append "ClientOptions(), opts...)...)"⟩
  simp [constructor, seq, block, line, toString]

theorem quote_notMem (h : IsName text) : '"' ∉ text.toList := quote_notMem_of_isOrdinary h.isOrdinary

theorem head?_isOrdinary (h : IsName text) (more : List Char) :
    (text.toList ++ more).head?.any isOrdinary := by
  cases hl : text.toList with
  | nil => exact absurd (String.toList_eq_nil_iff.mp hl) h.1
  | cons c cs => exact h.isOrdinary c (by rw [hl]; exact List.mem_cons_self)

theorem refers_context (client : Client) :
    client.constructor.Refers client.Spelled ClientImport.context := by
  have hsplit : "(ctx context.Context, opts ...option.ClientOption) (*" =
      "(ctx " ++ (ClientImport.context.boundName ++ "." ++
        "Context, opts ...option.ClientOption) (*") := by
    simp [boundName_eq]
  refine ⟨"func New" ++ client.typeName ++ "(ctx context.Context, opts ...option.ClientOption) (*" ++
    client.typeName ++ ", error) " ++ "\x7b", ?_, ?_⟩
  · simp [constructor, seq, block, line, toString]
  · refine .intro ("func New" ++ client.typeName ++ "(ctx ")
      ("Context, opts ...option.ClientOption) (*" ++ client.typeName ++ ", error) " ++ "\x7b") ?_
      (endsInName_append rfl (by decide)) ?_ fun hspelled => ⟨?_, ?_⟩
    · rw [hsplit]
      simp only [String.append_assoc]
    · simp only [String.append_assoc]
      exact begins_append (begins_ofList (by decide)) _
    · simp [quote_notMem hspelled.typeName]
    · simp only [String.toList_append]
      exact isOrdinary_ofNat (n := 'C'.toNat) (by decide)

theorem begins_stubField (client : Client) : begins client.stubField := by
  unfold stubField Naming.stubField
  split
  · exact begins_ofList (by decide)
  · unfold begins
    rw [String.toList_append]
    cases hc : (lowerCamelCase client.stem).toList with
    | nil => decide
    | cons c cs =>
      have hd : isSolid c :=
        isSolid_of_isOrdinary (isOrdinary_of_mem_lowerCamelCase
          (by rw [hc]; exact List.mem_cons_self))
      simpa using hd

theorem refers_stub (hname : client.stub.name ≠ "") :
    client.clientStruct.Refers client.Spelled client.stub := by
  refine ⟨client.stubField ++ " " ++ client.stub.name ++ "." ++ client.service.name ++ "Client",
    ?_, ?_⟩
  · simp [clientStruct, seq, block, line, toString]
  · refine .intro (client.stubField ++ " ") (client.service.name ++ "Client") ?_
      (endsInName_append rfl (by decide)) ?_ fun hspelled => ⟨?_, ?_⟩
    · simp only [ImportSpec.boundName_of_named hname, String.append_assoc]
    · simp only [String.append_assoc]
      exact begins_append client.begins_stubField _
    · simp [quote_notMem_of_isOrdinary (Spelled.isOrdinary_stubField client)]
    · rw [String.toList_append]
      exact head?_isOrdinary hspelled.service _

/-- The parts that every client has refer to the packages that every client imports. -/
theorem refers_scaffold (hname : client.stub.name ≠ "")
    (h : spec ∈ [ClientImport.context, ClientImport.gax, ClientImport.option, ClientImport.transport,
      ClientImport.grpc, ClientImport.metadata, client.stub]) :
    client.scaffold.Refers client.Spelled spec := by
  unfold scaffold
  simp only [List.mem_cons, List.not_mem_nil, or_false] at h
  rcases h with rfl | rfl | rfl | rfl | rfl | rfl | rfl
  · exact client.refers_context.mono (subset_seq (by simp))
  · exact client.refers_gax.mono (subset_seq (by simp))
  · exact client.refers_option.mono (subset_seq (by simp))
  · exact client.refers_transport.mono (subset_seq (by simp))
  · exact client.refers_grpc.mono (subset_seq (by simp))
  · exact client.refers_metadata.mono (subset_seq (by simp))
  · exact (refers_stub hname).mono (subset_seq (by simp))

theorem refers_retryBlock (h : spec ∈ [ClientImport.codes, ClientImport.time]) :
    (retryBlock {}).Refers formed spec := by
  simp only [List.mem_cons, List.not_mem_nil, or_false] at h
  rcases h with rfl | rfl
  · have hmentions : Mentions formed "return gax.OnCodes([]codes.Code" ClientImport.codes :=
      .literal "return gax.OnCodes([]".toList "Code".toList (by simp [boundName_eq])
        (begins_ofList (by decide)) (by decide) (by decide)
    refine ⟨"return gax.OnCodes([]codes.Code" ++ "\x7b", ?_, hmentions.append _⟩
    simp [retryBlock, block]
  · refine ⟨"Initial:    100 * time.Millisecond,", by decide, ?_⟩
    exact .literal "Initial:    100 * ".toList "Millisecond,".toList (by simp [boundName_eq])
      (begins_ofList (by decide)) (by decide) (by decide)

theorem refers_callOptions (hretries : client.retries.isEmpty = false)
    (h : spec ∈ [ClientImport.codes, ClientImport.time]) : client.callOptions.Refers formed spec := by
  have hshared : client.sharedRetry.Refers formed spec := by
    rw [sharedRetry_eq, if_pos]
    · exact refers_retryBlock h
    · obtain ⟨retry, hmem⟩ := List.isEmpty_eq_false_iff_exists_mem.mp hretries
      obtain ⟨_, method, hm, hretry, _⟩ := mem_retries_iff.mp hmem
      exact List.any_eq_true.mpr ⟨method, hm, hretry⟩
  refine hshared.mono fun op hop => ?_
  simp [callOptions, seq, block, hop]

theorem refers_lroauto (hlong : client.hasLongRunning = true) :
    client.clientStruct.Refers formed ClientImport.lroauto := by
  refine ⟨"LROClient *lroauto.OperationsClient", ?_, ?_⟩
  · simp [clientStruct, seq, block, line, hlong, when]
  · exact .literal "LROClient *".toList "OperationsClient".toList (by simp [boundName_eq])
      (begins_ofList (by decide)) (by decide) (by decide)

theorem refers_signature {request : GoType} {results : String} {parts : List Code}
    (hname : request.spec.boundName = request.spec.name) :
    (block (client.signature call (requestParam request) results) parts).Refers
      (client.Spelled ∧ IsName call.method.name ∧ request.Named) request.spec := by
  refine ⟨_, List.mem_cons_self, ?_⟩
  delta signature requestParam GoType.render
  dsimp only [toString]
  refine .intro
    ("func (c *" ++ client.typeName ++ ") " ++ call.method.name ++
      "(ctx context.Context, " ++ "req *")
    (request.name ++ ", " ++ "opts ...gax.CallOption) " ++ results ++ " " ++ "\x7b") ?_
    (endsInName_append rfl (by decide)) ?_ fun ⟨hspelled, hmethod, hrequest⟩ => ⟨?_, ?_⟩
  · rw [hname]
    simp only [String.append_assoc]
  · simp only [String.append_assoc]
    exact begins_append (begins_ofList (by decide)) _
  · simp [quote_notMem hspelled.typeName, quote_notMem hmethod]
  · simp only [String.toList_append, List.append_assoc]
    exact head?_isOrdinary hrequest.name _

theorem mentions_response {response : GoType} (hname : response.spec.boundName = response.spec.name) :
    Mentions response.Named s!"var resp *{response.render}" response.spec := by
  refine .intro "var resp *" response.name ?_ (endsInName_ofList rfl (by decide))
    (begins_append (begins_ofList (by decide)) _) fun hresponse => ⟨by simp, ?_⟩
  · rw [hname]
    rfl
  · have hhead := head?_isOrdinary hresponse.name []
    rwa [List.append_nil] at hhead

theorem mentions_items {element : Element} {type : GoType}
    (hname : type.spec.boundName = type.spec.name) (htype : element.goType = "*" ++ type.render) :
    Mentions type.Named
      (s!"it.InternalFetch = func(pageSize int, pageToken string) ([]{element.goType}, string, error) " ++ "\x7b")
      type.spec := by
  rw [htype]
  unfold GoType.render
  dsimp only [toString]
  refine .intro ("it.InternalFetch = func(pageSize int, pageToken string) ([]" ++ "*")
    (type.name ++ ", string, error) " ++ "\x7b") ?_ (endsInName_append rfl (by decide)) ?_
    fun hnamed => ⟨by simp, ?_⟩
  · rw [hname]
    simp only [String.append_assoc]
  · simp only [String.append_assoc]
    exact begins_append (begins_ofList (by decide)) _
  · simp only [String.toList_append, List.append_assoc]
    exact head?_isOrdinary hnamed.name _

theorem refers_fetchPage {response : GoType} {element : Element} {field : String}
    (hname : response.spec.boundName = response.spec.name) :
    (client.fetchPage call response element field).Refers response.Named response.spec := by
  refine ⟨_, ?_, mentions_response hname⟩
  simp [fetchPage, block, line]

theorem refers_items {page : PageElement} {response : GoType} {element : Element} {field : String}
    (helem : Element.resolve catalog page = .ok element) (h : spec ∈ element.imports)
    (hname : spec.boundName = spec.name) :
    (client.fetchPage call response element field).Refers element.Named spec := by
  cases page with
  | scalar goType stem =>
    cases helem
    cases h
  | message typeName =>
    obtain ⟨type, _, rfl⟩ := Element.resolve_message_eq_ok_iff.mp helem
    obtain rfl := List.mem_singleton.mp h
    refine ⟨_, List.mem_cons_self, (mentions_items hname rfl).imp fun hnamed => ?_⟩
    exact type_named hnamed (hnamed.imports _ List.mem_cons_self) rfl

theorem refers_math {response : GoType} {element : Element} {field : String} :
    (client.fetchPage call response element field).Refers formed ClientImport.math := by
  refine ⟨"req.PageSize = math.MaxInt32", ?_, ?_⟩
  · simp [fetchPage, block, line, branch, seq]
  · exact .literal "req.PageSize = ".toList "MaxInt32".toList (by simp [boundName_eq])
      (begins_ofList (by decide)) (by decide) (by decide)

theorem refers_proto {request response : GoType} {element : Element} {field : String} :
    (client.pagedMethod call request response element field).Refers formed ClientImport.proto := by
  have hmentions : Mentions formed "req = proto.Clone(req).(*" ClientImport.proto :=
    .literal "req = ".toList "Clone(req).(*".toList (by simp [boundName_eq])
      (begins_ofList (by decide)) (by decide) (by decide)
  refine ⟨_, ?_, (hmentions.append request.render).append ")"⟩
  simp [pagedMethod, block, line, toString]

theorem refers_iterator {request response : GoType} {element : Element} {field : String} :
    (client.pagedMethod call request response element field).Refers formed ClientImport.iterator := by
  refine ⟨"it.pageInfo, it.nextFunc = iterator.NewPageInfo(fetch, it.bufLen, it.takeBuf)", ?_, ?_⟩
  · simp [pagedMethod, block, line]
  · exact .literal "it.pageInfo, it.nextFunc = ".toList
      "NewPageInfo(fetch, it.bufLen, it.takeBuf)".toList
      (by simp [boundName_eq]) (begins_ofList (by decide)) (by decide) (by decide)

theorem fetchPage_subset {request response : GoType} {element : Element} {field : String} :
    client.fetchPage call response element field ⊆
      client.pagedMethod call request response element field := by
  intro op hop
  simp [pagedMethod, block, hop]

theorem refers_longrunning {request operation : GoType} :
    (client.longRunningMethod call request operation).Refers formed ClientImport.longrunning := by
  refine ⟨"return longrunning.InternalNewOperation(c.LROClient, resp), nil", ?_, ?_⟩
  · simp [longRunningMethod, block, line]
  · exact .literal "return ".toList "InternalNewOperation(c.LROClient, resp), nil".toList
      (by simp [boundName_eq]) (begins_ofList (by decide)) (by decide) (by decide)

/-- The code for a call refers to all that the call imports. -/
theorem refers_methodBody (hexchange : Exchange.Resolved catalog method shape call.exchange)
    (hnames : ∀ spec ∈ call.exchange.typeImports, spec.boundName = spec.name)
    (h : spec ∈ call.exchange.imports) :
    (client.methodBody call).Refers
      (client.Spelled ∧ IsName call.method.name ∧ call.exchange.Named) spec := by
  unfold methodBody
  generalize call.exchange = exchange at *
  cases hexchange with
  | @unary request response =>
    simp only [Exchange.imports, List.mem_cons, List.not_mem_nil, or_false] at h
    rcases h with rfl | rfl
    · refine (refers_signature (hnames _ (by simp [Exchange.typeImports]))).imp ?_
      exact fun hformed => ⟨hformed.1, hformed.2.1, hformed.2.2.1⟩
    · refine ⟨_, ?_,
        (mentions_response (hnames _ (by simp [Exchange.typeImports]))).imp fun hformed => ?_⟩
      · simp [unaryMethod, block, line]
      · exact hformed.2.2.2
  | acknowledged | serverStream =>
    rw [Exchange.imports, List.mem_singleton] at h
    subst h
    exact refers_signature (hnames _ (by simp [Exchange.typeImports]))
  | @longRunning request operation =>
    simp only [Exchange.imports, List.mem_cons, List.not_mem_nil, or_false] at h
    rcases h with rfl | rfl | rfl
    · exact refers_longrunning
    · refine (refers_signature (hnames _ (by simp [Exchange.typeImports]))).imp ?_
      exact fun hformed => ⟨hformed.1, hformed.2.1, hformed.2.2.1⟩
    · refine ⟨_, ?_,
        (mentions_response (hnames _ (by simp [Exchange.typeImports]))).imp fun hformed => ?_⟩
      · simp [longRunningMethod, block, line]
      · exact hformed.2.2.2
  | clientStream | bidiStream => cases h
  | paged _ _ _ helem =>
    simp only [Exchange.imports, List.mem_append, List.mem_cons, List.not_mem_nil, or_false] at h
    rcases h with (rfl | rfl | rfl | rfl | rfl) | h
    · exact refers_math.mono fetchPage_subset
    · exact refers_proto
    · exact refers_iterator
    · refine (refers_signature (hnames _ (by simp [Exchange.typeImports]))).imp ?_
      exact fun hformed => ⟨hformed.1, hformed.2.1, hformed.2.2.1⟩
    · refine ((refers_fetchPage (hnames _ (by simp [Exchange.typeImports]))).mono
        fetchPage_subset).imp ?_
      exact fun hformed => hformed.2.2.2.1
    · refine ((refers_items helem h (hnames _ (by simp [Exchange.typeImports, h]))).mono
        fetchPage_subset).imp ?_
      exact fun hformed => hformed.2.2.2.2

theorem refers_segments (h : Resolved catalog options file service client)
    (hs : spec ∈ client.imports.specs) (declared : List String) :
    Refers client.Spelled (client.segments declared).flatten spec := by
  have hscaffold {part : Code} (hp : part ∈ [client.optionsStruct, client.clientOptions,
      client.authScopes, client.callOptions, client.clientStruct, client.constructor,
      client.connection, client.close, client.clientInfo]) :
      part ⊆ (client.segments declared).flatten := by
    intro op hop
    exact subset_seq List.mem_cons_self (subset_seq hp hop)
  rw [imports, ImportSet.mem_ofList, scaffoldImports] at hs
  simp only [List.flatten_cons, List.flatten_nil, List.append_nil, List.mem_append] at hs
  rcases hs with (hs | hs | hs) | hs
  · have hscaffolded := refers_scaffold (ClientImport.name_ne_empty h.stub_eq) hs
    exact hscaffolded.mono (subset_seq List.mem_cons_self)
  · split at hs
    · cases hs
    · rename_i hretries
      exact (refers_callOptions (Bool.eq_false_iff.mpr hretries) hs).mono (hscaffold (by simp))
  · split at hs
    · rename_i hlong
      rw [List.mem_singleton.mp hs]
      exact (refers_lroauto hlong).mono (hscaffold (by simp))
    · cases hs
  · obtain ⟨call, hc, hs⟩ := List.mem_flatMap.mp hs
    obtain ⟨method, _, hcall⟩ := h.exists_method hc
    obtain ⟨shape, _, he⟩ := hcall.exchange_eq
    have hnames : ∀ spec ∈ call.exchange.typeImports, spec.boundName = spec.name := by
      intro spec hspec
      have htype : spec ∈ client.typeImports :=
        List.mem_cons_of_mem _ (List.mem_flatMap.mpr ⟨call, hc, hspec⟩)
      exact boundName_of_mem_typeImports h htype
    have hbody : (client.methodBody call).Refers _ spec :=
      refers_methodBody (Exchange.resolved_of_resolve he) hnames hs
    have hformed : client.Spelled →
        client.Spelled ∧ IsName call.method.name ∧ call.exchange.Named := fun hspelled =>
      ⟨hspelled, hspelled.calls call hc, hspelled.exchanges call hc⟩
    refine (hbody.imp hformed).mono fun op hop => ?_
    have hmethod : client.method call ∈ client.segments declared :=
      List.mem_cons_of_mem _ (List.mem_append_left _ (List.mem_map_of_mem hc))
    refine subset_seq hmethod ?_
    exact subset_seq (List.mem_cons_of_mem _ List.mem_cons_self) hop

theorem isName_boundName_of_mem_all : ∀ spec ∈ ClientImport.all, IsName spec.boundName := by
  decide +kernel

theorem isName_boundName (h : Resolved catalog options file service client) (hn : client.Named)
    (hs : spec ∈ client.imports.specs) : IsName spec.boundName := by
  obtain hown | htype := mem_imports.mp hs
  · exact isName_boundName_of_mem_all spec (client.ownImports_subset hown)
  · obtain ⟨_, hfile⟩ := exists_file_of_mem_typeImports h htype
    rw [boundName_of_mem_typeImports h htype]
    exact (hn.name_of_mem_imports hs).resolve_left (ClientImport.name_ne_empty hfile)

theorem trimmed_name (hn : client.Named) (hs : spec ∈ client.imports.specs) :
    trimmed spec.name = spec.name := by
  obtain hempty | hname := hn.name_of_mem_imports hs
  · rw [hempty]
    rfl
  · exact trimmed_eq_self fun c hc => not_isBlank_of_isOrdinary (hname.isOrdinary c hc)

/-- Under names that are identifiers, what a body names before members are the names of its
imports. -/
theorem mem_qualifiersOf_body_iff (h : Resolved catalog options file service client)
    (hn : client.Named) (declared : List String) {name : String} (hlocal : name ∉ locals)
    (hletter : name.toList.any (!·.isDigit)) :
    name ∈ qualifiersOf (client.body declared) ↔ ∃ spec ∈ client.imports.specs,
      spec.boundName = name := by
  constructor
  · intro hname
    obtain hname | hname := List.mem_append.mp (qualifiersOf_body_subset h hn declared hname)
    · exact absurd hname hlocal
    · exact List.mem_map.mp hname
  · rintro ⟨spec, hs, rfl⟩
    have hspelled := h.spelled hn
    obtain ⟨row, hrow, ⟨_, _, _, _, hcode⟩, hqualifier⟩ :=
      (refers_segments h hs declared).exists_row 0
    obtain ⟨chars, hchars, rfl⟩ := List.mem_map.mp hrow
    rw [String.toList_ofList] at hcode hqualifier
    rw [body_eq_written]
    exact mem_qualifiersOf_written (.flatten (hspelled.tidy_segments declared)) hchars hcode
      (hqualifier hspelled (isName_boundName h hn hs) hletter)

/-- A client imports what it needs and nothing else, each package on one row of the header. Rows of
its body name all that is imported, whichever iterators are declared elsewhere. Where names are
identifiers, a reader of the body finds nothing else before the names of members than imports,
receivers and variables. -/
theorem imports_exact (h : resolve catalog options file service = .ok client) :
    (∀ spec, spec ∈ client.imports.specs ↔ Needs catalog file service spec) ∧
      (∃ std others rows,
        client.header options = Emitter.render (Header.code options .empty none) ++ ofRows rows ∧
          Header.IsBlock std others rows ∧ (std ++ others).Nodup ∧
          (∀ spec, spec ∈ std ++ others ↔ Needs catalog file service spec) ∧
          (client.Named →
            ∀ spec, Needs catalog file service spec → (rows.map trimmed).count spec.spelling = 1)) ∧
      ∀ declared,
        (client.outputFile options declared).content = client.header options ++ client.body declared ∧
          (∃ rows, client.body declared = ofRows rows ∧
            ∀ spec, Needs catalog file service spec → ∃ row ∈ rows, Names row spec) ∧
          (client.Named → ∀ name, name ∉ locals → name.toList.any (!·.isDigit) →
            (name ∈ qualifiersOf (client.body declared) ↔
              ∃ spec, Needs catalog file service spec ∧ spec.boundName = name)) := by
  have hr := resolve_eq_ok_iff.mp h
  have hneeds (spec : ImportSpec) : spec ∈ client.imports.specs ↔ Needs catalog file service spec :=
    mem_imports_iff_needs hr
  have hne : client.imports.specs ≠ [] :=
    List.ne_nil_of_mem ((hneeds _).mpr (.always List.mem_cons_self))
  have hsplit := List.take_append_drop client.imports.boundary client.imports.sorted
  have hnodup : (client.imports.sorted.take client.imports.boundary ++
      client.imports.sorted.drop client.imports.boundary).Nodup := by
    rw [hsplit]
    exact Header.nodup_sorted _
  have hmem (spec : ImportSpec) : spec ∈ client.imports.sorted.take client.imports.boundary ++
      client.imports.sorted.drop client.imports.boundary ↔ Needs catalog file service spec := by
    rw [hsplit, Header.mem_sorted, hneeds]
  refine ⟨hneeds, ⟨_, _, _, Header.render_code_eq options _ none, Header.isBlock_printed hne _,
    hnodup, hmem, ?_⟩, fun declared => ⟨rfl, ?_, ?_⟩⟩
  · intro hn spec hs
    refine (Header.isBlock_printed hne _).count_spelling hnodup (fun spec hs => ?_)
      ((hmem spec).mpr hs)
    exact trimmed_name hn ((hneeds spec).mpr ((hmem spec).mp hs))
  · refine ⟨Emitter.printed 0 (client.segments declared).flatten, ?_, fun spec hs => ?_⟩
    · rw [body_eq_written, Emitter.written_eq_ofRows]
    · obtain ⟨row, hrow, hrowNames, _⟩ :=
        (refers_segments hr ((hneeds _).mpr hs) declared).exists_row 0
      exact ⟨row, hrow, hrowNames⟩
  · intro hn name hlocal hletter
    rw [mem_qualifiersOf_body_iff hr hn declared hlocal hletter]
    simp only [hneeds]

theorem imports_exact_library :
    ∃ file service client rows,
      resolve (.ofFiles (libraryFiles "Record")) libraryOptions file service = .ok client ∧
        client.Named ∧
        client.imports.specs = [ClientImport.context, ClientImport.gax, ClientImport.option,
          ClientImport.transport, ClientImport.grpc, ClientImport.metadata,
          ⟨"librarypb", "example.com/library"⟩, ClientImport.math, ClientImport.proto,
            ClientImport.iterator,
          ⟨"archivepb", "example.com/archive"⟩] ∧
        Needs (.ofFiles (libraryFiles "Record")) file service ⟨"archivepb", "example.com/archive"⟩ ∧
        client.header libraryOptions =
          Emitter.render (Header.code libraryOptions .empty none) ++ ofRows rows ∧
        (rows.map trimmed).count "archivepb \"example.com/archive\"" = 1 ∧
        "archivepb" ∈ qualifiersOf (client.body ["BookIterator", "RecordIterator"]) ∧
        "codes" ∉ qualifiersOf (client.body ["BookIterator", "RecordIterator"]) := by
  have himports : (·.map (·.imports.specs)) <$> Run.clients (.ofFiles (libraryFiles "Record"))
      libraryOptions ["library.proto"] =
        .ok [[ClientImport.context, ClientImport.gax, ClientImport.option,
        ClientImport.transport, ClientImport.grpc, ClientImport.metadata,
        ⟨"librarypb", "example.com/library"⟩, ClientImport.math, ClientImport.proto,
        ClientImport.iterator, ⟨"archivepb", "example.com/archive"⟩]] := by
    decide +kernel
  have hfiles : ∀ file ∈ libraryFiles "Record", file.HasNames := by
    decide +kernel
  obtain ⟨client, hrun, hs⟩ := Run.exists_client himports
  obtain ⟨_, _, file, hf, service, hservice, hr⟩ := Run.exists_resolved hrun List.mem_cons_self
  have hnamed := hr.named hfiles (Catalog.mem_of_file? hf).1 hservice
  have hresolve := resolve_eq_ok_iff.mpr hr
  obtain ⟨hneeds, ⟨_, _, rows, hheader, _, _, _, hcount⟩, hbody⟩ := imports_exact hresolve
  obtain ⟨_, _, hqualifiers⟩ := hbody ["BookIterator", "RecordIterator"]
  have harchive :
      Needs (.ofFiles (libraryFiles "Record")) file service ⟨"archivepb", "example.com/archive"⟩ := by
    rw [← hneeds, hs]
    decide
  have hspelling : ImportSpec.spelling ⟨"archivepb", "example.com/archive"⟩ =
      "archivepb \"example.com/archive\"" := by
    decide +kernel
  refine ⟨file, service, client, rows, hresolve, hnamed, hs, harchive, hheader, ?_, ?_, ?_⟩
  · rw [← hspelling]
    exact hcount hnamed _ harchive
  · exact (hqualifiers hnamed "archivepb" (by decide) (by decide)).mpr
      ⟨_, harchive, by decide⟩
  · rw [hqualifiers hnamed "codes" (by decide) (by decide)]
    rintro ⟨spec, hspec, hname⟩
    rw [← hneeds, hs] at hspec
    revert spec
    decide

end Client

end ClientGen
