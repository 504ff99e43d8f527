import ClientGen.Proofs.Client.Scaffold
import ClientGen.Proofs.Emitter.Printed
import ClientGen.Proofs.Run.FileNames

namespace ClientGen

open Schema Text Code Emitter

namespace Client

def field? (row : String) : Option (String × String) :=
  (cut ' ' (trimmed row)).map fun (name, type) => (name, trimmed type)

def pair? (row : String) : Option (String × String) :=
  (cut ':' (trimmed row)).bind fun (key, value) =>
    (before? "," value).map fun value => (key, trimmed value)

def assigned? (row : String) : Option String :=
  let text := trimStart row.toList
  if " := ".toList.isPrefixOf (text.drop (word text).length) then some (.ofList (word text)) else none

def optionsRows (stem : String) (fields : List String) : List String :=
  [s!"type {stem}CallOptions struct \x7b"] ++ fields ++ ["\x7d"]

def defaultsRows (stem : String) (setup entries : List String) : List String :=
  [s!"func default{stem}CallOptions() *{stem}CallOptions \x7b"] ++ setup ++
    [s!"\treturn &{stem}CallOptions\x7b"] ++ entries ++ ["\t\x7d", "\x7d"]

def retryRows : List String := [
  "\tretry := []gax.CallOption\x7b",
  "\t\tgax.WithRetry(func() gax.Retryer \x7b",
  "\t\t\treturn gax.OnCodes([]codes.Code\x7b",
  "\t\t\t\tcodes.DeadlineExceeded,",
  "\t\t\t\tcodes.Unavailable,",
  "\t\t\t\x7d, gax.Backoff\x7b",
  "\t\t\t\tInitial:    100 * time.Millisecond,",
  "\t\t\t\tMax:        60000 * time.Millisecond,",
  "\t\t\t\tMultiplier: 1.3,",
  "\t\t\t\x7d)",
  "\t\t\x7d),",
  "\t\x7d"]

variable {client : Client} {name value stem text : String} {width : Nat}

theorem printed_retryBlock : printed 1 (retryBlock {}) = retryRows := by
  decide +kernel

/-- No other method of the same name can have a policy. -/
theorem callOption_eq (h : (client.service.methods.map (·.name)).Nodup) {method : Method}
    (hm : method ∈ client.service.methods) : client.callOption method.name =
      if RetryPolicy.isRetryable method then "retry" else "[]gax.CallOption\x7b\x7d" := by
  have hany : client.retries.any (·.1 == method.name) = RetryPolicy.isRetryable method := by
    rw [Bool.eq_iff_iff, List.any_eq_true]
    constructor
    · rintro ⟨retry, hretry, hname⟩
      obtain ⟨_, other, ho, hother, heq⟩ := mem_retries_iff.mp hretry
      rw [← List.inj_on_of_nodup_map h ho hm (heq.trans (eq_of_beq hname))]
      exact hother
    · intro hretry
      exact ⟨(method.name, {}), mem_retries_iff.mpr ⟨rfl, method, hm, hretry, rfl⟩,
        beq_self_eq_true _⟩
  rw [callOption, hany]

theorem field?_row (h : IsName name) :
    field? (tabs 1 ++ (padded width name ++ " []gax.CallOption")) =
      some (name, "[]gax.CallOption") := by
  have htrim : trimmed (tabs 1 ++ (padded width name ++ " []gax.CallOption")) =
      padded width name ++ " []gax.CallOption" :=
    trimmed_tabs (starts_append (starts_append h.starts _) _) (ends_append (by decide) _) 1
  -- of the spaces between the name and the type the first is where the row is cut
  have hcut : cut ' ' (padded width name ++ " []gax.CallOption") =
      some (name, .ofList (List.replicate (width - name.length) ' ') ++ "[]gax.CallOption") := by
    refine cut_eq_some_iff.mpr ⟨fun hc => absurd (h.isOrdinary _ hc) (by decide), ?_⟩
    have hspaces (n : Nat) (rest : List Char) :
        List.replicate n ' ' ++ ' ' :: rest = ' ' :: (List.replicate n ' ' ++ rest) := by
      rw [← List.singleton_append, ← List.append_assoc, ← List.replicate_succ', List.replicate_succ]
      rfl
    rw [← String.toList_inj]
    simp [padded, hspaces]
  rw [field?, htrim, hcut, Option.map_some]
  dsimp only
  rw [trimmed_spaces]
  rfl

theorem not_isNamePart_colon : isNamePart ':' = false := by
  decide +kernel

theorem starts_entry (h : IsName name) :
    starts (padded width (name ++ ":") ++ " " ++ value ++ ",") :=
  starts_append (starts_append (starts_append (starts_append (starts_append h.starts _) _) _) _) _

theorem pair?_row (h : IsName name) (hv : trimmed value = value) :
    pair? (tabs 2 ++ (padded width (name ++ ":") ++ " " ++ value ++ ",")) = some (name, value) := by
  have htrim : trimmed (tabs 2 ++ (padded width (name ++ ":") ++ " " ++ value ++ ",")) =
      padded width (name ++ ":") ++ " " ++ value ++ "," :=
    trimmed_tabs (starts_entry h) (ends_append (by decide) _) 2
  have hcut : cut ':' (padded width (name ++ ":") ++ " " ++ value ++ ",") = some (name,
      .ofList (List.replicate (width - (name ++ ":").length) ' ') ++ " " ++ value ++ ",") := by
    refine cut_eq_some_iff.mpr ⟨fun hc => absurd (h.2 _ hc) (by simp [not_isNamePart_colon]), ?_⟩
    rw [← String.toList_inj]
    simp [padded]
  have hcomma :
    before? "," (.ofList (List.replicate (width - (name ++ ":").length) ' ') ++ " " ++ value ++
      ",") = some (.ofList (List.replicate (width - (name ++ ":").length) ' ') ++ " " ++ value) :=
    before?_eq_some_iff.mpr rfl
  rw [pair?, htrim, hcut, Option.bind_some]
  dsimp only
  rw [hcomma, Option.map_some]
  have hspace : trimmed (" " ++ value) = trimmed value := trimmed_spaces 1 value
  rw [String.append_assoc, trimmed_spaces, hspace, hv]

/-- A row that begins with a name declares it just if the sign for that comes next. -/
theorem assigned?_of_word {rest : List Char} (hs : starts text)
    (hname : ∀ c ∈ name.toList, isNamePart c)
    (htext : text.toList = name.toList ++ rest) (hrest : rest.head?.any isNamePart = false)
    (level : Nat) : assigned? (tabs level ++ text) =
      if " := ".toList.isPrefixOf rest then some name else none := by
  rw [assigned?, String.toList_append, trimStart_append_of_blank (isBlankText_tabs level),
    trimStart_of_starts hs, htext, word_append hname hrest, List.drop_left, String.ofList_toList]

theorem assigned?_entry (h : IsName name) :
    assigned? (tabs 2 ++ (padded width (name ++ ":") ++ " " ++ value ++ ",")) = none := by
  have htext : (padded width (name ++ ":") ++ " " ++ value ++ ",").toList = name.toList ++
      ':' :: (List.replicate (width - (name ++ ":").length) ' ' ++ ' ' ::
        (value.toList ++ [','])) := by
    simp [padded]
  rw [assigned?_of_word (starts_entry h) h.2 htext (by simp [not_isNamePart_colon]) 2]
  rfl

def fieldTexts (client : Client) : List String :=
  client.methodNames.map fun name => padded (widest client.methodNames) name ++ " []gax.CallOption"

def entryTexts (client : Client) : List String :=
  client.methodNames.map fun name =>
    padded (widest (client.methodNames.map (· ++ ":"))) (name ++ ":") ++ " " ++
      client.callOption name ++ ","

theorem starts_and_ends_fieldTexts (h : ∀ name ∈ client.methodNames, IsName name) :
    ∀ text ∈ client.fieldTexts, starts text ∧ ends text := by
  intro text ht
  obtain ⟨name, hn, rfl⟩ := List.mem_map.mp ht
  exact ⟨starts_append (starts_append (h name hn).starts _) _, ends_append (by decide) _⟩

theorem starts_and_ends_entryTexts (h : ∀ name ∈ client.methodNames, IsName name) :
    ∀ text ∈ client.entryTexts, starts text ∧ ends text := by
  intro text ht
  obtain ⟨name, hn, rfl⟩ := List.mem_map.mp ht
  exact ⟨starts_entry (h name hn), ends_append (by decide) _⟩

-- The stem may be any text here, also one that breaks lines, so that rows are found by their ends
-- alone.
theorem optionsStruct_spec (h : ∀ name ∈ client.methodNames, IsName name) :
    Rises 0 client.optionsStruct ∧ ∃ comment, printed 0 client.optionsStruct =
      [comment] ++ optionsRows client.stem (client.fieldTexts.map (tabs 1 ++ ·)) ++ [""] := by
  have hcomment :
      starts s!"// {client.optionsType} contains the retry settings for each method of {client.typeName}." :=
    starts_append (starts_append (starts_append (starts_append (starts_ofList (by decide)) _) _) _) _
  have hend : ends
      s!"// {client.optionsType} contains the retry settings for each method of {client.typeName}." :=
    ends_append (ends_ofList (by decide)) _
  have hhead : starts s!"type {client.optionsType} struct " :=
    starts_append (starts_append (starts_ofList (by decide)) _) _
  have hopeners : openers s!"type {client.optionsType} struct ".toList = 0 :=
    openers_append (openers_ofList (by decide)) (by decide) _
  have hfields := starts_and_ends_fieldTexts h
  have hblock := Rises.block hhead hopeners (rises_lines hfields).single
  have hline := Rises.plain hcomment hend
  refine ⟨hline.cons (hblock.cons Rises.blank.single),
    s!"// {client.optionsType} contains the retry settings for each method of {client.typeName}.", ?_⟩
  have hstem : tabs 0 ++ (s!"type {client.optionsType} struct " ++ "\x7b") =
      s!"type {client.stem}CallOptions struct \x7b" := by
    rw [tabs_zero_append, ← String.toList_inj]
    simp [optionsType, toString]
  have hcode : client.optionsStruct = [
      line s!"// {client.optionsType} contains the retry settings for each method of {client.typeName}.",
      block s!"type {client.optionsType} struct " [lines client.fieldTexts], blank].flatten := rfl
  rw [hcode, printed_cons hline, printed_line hcomment (trimEnd_of_ends hend), printed_cons hblock,
    printed_block hhead hopeners (rises_lines hfields).single, hstem, List.flatten_singleton,
    printed_lines hfields, List.flatten_singleton, printed_blank, optionsRows, tabs_zero_append,
    tabs_zero_append]
  simp only [List.append_assoc, Nat.zero_add]

theorem rises_clientOptions (client : Client) : Rises 0 client.clientOptions := by
  have hhead : starts s!"func default{client.stem}ClientOptions() []option.ClientOption " :=
    starts_append (starts_append (starts_ofList (by decide)) _) _
  have hopeners :
      openers s!"func default{client.stem}ClientOptions() []option.ClientOption ".toList = 0 :=
    openers_append (openers_ofList (by decide)) (by decide) _
  have hendpoint : Rises 0 (line s!"option.WithEndpoint({quoted client.endpoint}),") :=
    .plain (starts_append (starts_append (starts_ofList (by decide)) _) _)
      (ends_append (ends_ofList (by decide)) _)
  have hscopes : Rises 0 (when client.hasScopes [
      line s!"option.WithScopes(Default{client.stem}AuthScopes()...),"]) :=
    .when (Rises.plain (starts_append (starts_append (starts_ofList (by decide)) _) _)
      (ends_append (ends_ofList (by decide)) _)).single
  have hreturn := Rises.block (a := "return []option.ClientOption") (starts_ofList (by decide))
    (openers_ofList (by decide)) (hendpoint.cons hscopes.single)
  exact (Rises.block hhead hopeners hreturn.single).cons Rises.blank.single

theorem rises_authScopes (client : Client) : Rises 0 client.authScopes := by
  have hcomment :
      Rises 0 (line
        s!"// Default{client.stem}AuthScopes reports the default set of authentication scopes to use with this package.") :=
    .plain (starts_append (starts_append (starts_ofList (by decide)) _) _)
      (ends_append (ends_ofList (by decide)) _)
  have hhead : starts s!"func Default{client.stem}AuthScopes() []string " :=
    starts_append (starts_append (starts_ofList (by decide)) _) _
  have hopeners : openers s!"func Default{client.stem}AuthScopes() []string ".toList = 0 :=
    openers_append (openers_ofList (by decide)) (by decide) _
  have hscopes :
      Rises 0 (lines (client.service.oauthScopes.map fun scope => quoted scope ++ ",")) := by
    refine rises_lines fun text ht => ?_
    obtain ⟨scope, _, rfl⟩ := List.mem_map.mp ht
    exact ⟨starts_append (Front.ofQuoted scope).starts _, ends_append (ends_ofList (by decide)) _⟩
  have hreturn := Rises.block (a := "return []string") (starts_ofList (by decide))
    (openers_ofList (by decide)) hscopes.single
  exact .when (hcomment.cons ((Rises.block hhead hopeners hreturn.single).cons Rises.blank.single))

theorem callOptions_spec (h : ∀ name ∈ client.methodNames, IsName name) :
    Rises 0 client.callOptions ∧ printed 0 client.callOptions =
      defaultsRows client.stem (printed 1 client.sharedRetry) (client.entryTexts.map (tabs 2 ++ ·)) ++
        [""] := by
  have hhead : starts s!"func default{client.optionsType}() *{client.optionsType} " :=
    starts_append (starts_append (starts_append (starts_append (starts_ofList (by decide)) _) _) _) _
  have hopeners : openers s!"func default{client.optionsType}() *{client.optionsType} ".toList = 0 :=
    openers_append (openers_ofList (by decide)) (by decide) _
  have hreturn : starts s!"return &{client.optionsType}" :=
    starts_append (starts_ofList (by decide)) _
  have hclosed : openers s!"return &{client.optionsType}".toList = 0 :=
    openers_of_ends (ends_append (ends_append (ends_ofList (by decide)) _) _)
  have hentries := starts_and_ends_entryTexts h
  have hretry : Rises 0 client.sharedRetry := (Spelled.tidy_sharedRetry client).rises
  have hliteral := Rises.block hreturn hclosed (rises_lines hentries).single
  have hblock := Rises.block hhead hopeners (hretry.cons hliteral.single)
  refine ⟨hblock.cons Rises.blank.single, ?_⟩
  have hstem : tabs 0 ++ (s!"func default{client.optionsType}() *{client.optionsType} " ++ "\x7b") =
      s!"func default{client.stem}CallOptions() *{client.stem}CallOptions \x7b" := by
    rw [tabs_zero_append, ← String.toList_inj]
    simp [optionsType, toString]
  have hopen : tabs 1 ++ (s!"return &{client.optionsType}" ++ "\x7b") =
      s!"\treturn &{client.stem}CallOptions\x7b" := by
    rw [← String.toList_inj]
    simp [tabs, optionsType, toString]
  refine (printed_cons hblock).trans ?_
  rw [printed_block hhead hopeners (hretry.cons hliteral.single), hstem, printed_cons hretry,
    List.flatten_singleton, printed_block hreturn hclosed (rises_lines hentries).single, hopen,
    List.flatten_singleton, printed_lines hentries, List.flatten_singleton,
    printed_blank, defaultsRows]
  have hclose : tabs 1 ++ "\x7d" = "\t\x7d" := rfl
  simp [tabs_zero_append, hclose]

/-- The struct and the function stand in the body one after the other, with whole rows around
them. -/
theorem exists_body_eq (h : ∀ name ∈ client.methodNames, IsName name) (declared : List String) :
    ∃ before between after, client.body declared = ofRows (before ++
      optionsRows client.stem (client.fieldTexts.map (tabs 1 ++ ·)) ++ between ++
      defaultsRows client.stem (printed 1 client.sharedRetry) (client.entryTexts.map (tabs 2 ++ ·)) ++
      after) := by
  obtain ⟨hstruct, comment, hoptions⟩ := optionsStruct_spec h
  obtain ⟨hdefaults, hcall⟩ := callOptions_spec h
  have hbetween : Rises 0 [client.clientOptions, client.authScopes].flatten :=
    (rises_clientOptions client).cons (rises_authScopes client).single
  obtain ⟨rest, hbody⟩ : ∃ rest, client.body declared = written 0 ([client.optionsStruct,
      [client.clientOptions, client.authScopes].flatten, client.callOptions, rest].flatten) := by
    refine ⟨[client.clientStruct, client.constructor, client.connection, client.close,
      client.clientInfo, client.calls.flatMap client.method,
      (newElements declared client.elements).flatMap Element.declaration].flatten, ?_⟩
    rw [body, render_eq, scaffold]
    simp [seq]
  rw [hbody, written_eq_ofRows, printed_cons hstruct, printed_cons hbetween, printed_cons hdefaults,
    hoptions, hcall]
  refine ⟨[comment], [""] ++ printed 0 [client.clientOptions, client.authScopes].flatten,
    [""] ++ printed 0 [rest].flatten, ?_⟩
  simp only [List.append_assoc]

def values (entries : List String) : List String := (entries.filterMap pair?).map (·.2)

/-- Rows of a struct and of a function that go with methods: a field and an entry for each, in their
order and under their names. An entry takes the shared options if calls of its method are tried
again, and no options else. The shared options are declared, once, just if some entry takes them. -/
structure GivesOptions (methods : List Method) (stem : String) (fields setup entries : List String) :
    Prop where
  fields_eq : fields.map field? = methods.map fun method => some (method.name, "[]gax.CallOption")
  entries_eq : entries.map pair? = methods.map fun method =>
    some (method.name, if RetryPolicy.isRetryable method then "retry" else "[]gax.CallOption\x7b\x7d")
  setup_eq : setup = if "retry" ∈ values entries then retryRows else []
  declared_eq : (defaultsRows stem setup entries).filterMap assigned? =
    if "retry" ∈ values entries then ["retry"] else []

theorem retry_mem_values_iff {entries : List String} {methods : List Method}
    (h : entries.map pair? = methods.map fun method =>
      some (method.name, if RetryPolicy.isRetryable method then "retry"
        else "[]gax.CallOption\x7b\x7d")) :
    "retry" ∈ values entries ↔ methods.any RetryPolicy.isRetryable := by
  have hvalues : "retry" ∈ values entries ↔ ∃ name, some (name, "retry") ∈ entries.map pair? := by
    simp [values]
  rw [hvalues, h, List.any_eq_true]
  constructor
  · rintro ⟨name, hmem⟩
    obtain ⟨method, hm, hpair⟩ := List.mem_map.mp hmem
    refine ⟨method, hm, ?_⟩
    by_contra hretry
    rw [if_neg hretry, Option.some_inj, Prod.mk.injEq] at hpair
    exact absurd hpair.2 (by decide)
  · rintro ⟨method, hm, hretry⟩
    refine ⟨method.name, List.mem_map.mpr ⟨method, hm, ?_⟩⟩
    rw [if_pos hretry]

theorem assigned?_head (stem : String) :
    assigned? s!"func default{stem}CallOptions() *{stem}CallOptions \x7b" = none := by
  have hs : starts s!"func default{stem}CallOptions() *{stem}CallOptions \x7b" :=
    starts_append (starts_append (starts_append (starts_append (starts_ofList (by decide)) _) _) _) _
  have hspace : isNamePart ' ' = false := Item.isNamePart_of_mem _ (by decide)
  have htext : s!"func default{stem}CallOptions() *{stem}CallOptions \x7b".toList = "func".toList ++
      ' ' :: 'd' :: ("efault".toList ++ (stem.toList ++ ("CallOptions() *".toList ++
        (stem.toList ++ "CallOptions \x7b".toList)))) := by
    simp [toString]
  have hname : ∀ c ∈ "func".toList, isNamePart c := List.all_eq_true.mp (by decide)
  have hword := assigned?_of_word hs hname htext (by simp [hspace]) 0
  rw [tabs_zero_append] at hword
  rw [hword]
  rfl

theorem assigned?_return (stem : String) : assigned? s!"\treturn &{stem}CallOptions\x7b" = none := by
  have hs : starts s!"return &{stem}CallOptions\x7b" :=
    starts_append (starts_append (starts_ofList (by decide)) _) _
  have hspace : isNamePart ' ' = false := Item.isNamePart_of_mem _ (by decide)
  have htext : s!"return &{stem}CallOptions\x7b".toList =
      "return".toList ++ ' ' :: '&' :: (stem.toList ++ "CallOptions\x7b".toList) := by
    simp [toString]
  have hrow : s!"\treturn &{stem}CallOptions\x7b" = tabs 1 ++ s!"return &{stem}CallOptions\x7b" := by
    rw [← String.toList_inj]
    simp [tabs, toString]
  have hname : ∀ c ∈ "return".toList, isNamePart c := List.all_eq_true.mp (by decide)
  rw [hrow, assigned?_of_word hs hname htext (by simp [hspace]) 1]
  rfl

theorem filterMap_assigned?_defaultsRows {setup entries : List String}
    (h : ∀ row ∈ entries, assigned? row = none) :
    (defaultsRows stem setup entries).filterMap assigned? = setup.filterMap assigned? := by
  have hhead :
      [s!"func default{stem}CallOptions() *{stem}CallOptions \x7b"].filterMap assigned? = [] :=
    List.filterMap_cons_none (assigned?_head stem)
  have hreturn : [s!"\treturn &{stem}CallOptions\x7b"].filterMap assigned? = [] :=
    List.filterMap_cons_none (assigned?_return stem)
  have hentries : entries.filterMap assigned? = [] := List.filterMap_eq_nil_iff.mpr h
  have hclose : ["\t\x7d", "\x7d"].filterMap assigned? = [] := by decide +kernel
  simp only [defaultsRows, List.filterMap_append, hhead, hreturn, hentries, hclose, List.append_nil,
    List.nil_append]

/-- The rows of a client go with the methods of its service. -/
theorem givesOptions (h : ∀ method ∈ client.service.methods, IsName method.name)
    (hnodup : (client.service.methods.map (·.name)).Nodup) :
    GivesOptions client.service.methods client.stem (client.fieldTexts.map (tabs 1 ++ ·))
      (printed 1 client.sharedRetry) (client.entryTexts.map (tabs 2 ++ ·)) := by
  have hfields : (client.fieldTexts.map (tabs 1 ++ ·)).map field? =
      client.service.methods.map fun method => some (method.name, "[]gax.CallOption") := by
    simp only [fieldTexts, methodNames, List.map_map, List.map_inj_left, Function.comp_apply]
    exact fun method hm => field?_row (h method hm)
  have hentries : (client.entryTexts.map (tabs 2 ++ ·)).map pair? =
      client.service.methods.map fun method => some (method.name,
        if RetryPolicy.isRetryable method then "retry" else "[]gax.CallOption\x7b\x7d") := by
    simp only [entryTexts, methodNames, List.map_map, List.map_inj_left, Function.comp_apply]
    intro method hm
    rw [← callOption_eq hnodup hm]
    refine pair?_row (h method hm) ?_
    unfold callOption
    split <;> decide
  have hsetup : printed 1 client.sharedRetry =
      if "retry" ∈ values (client.entryTexts.map (tabs 2 ++ ·)) then retryRows else [] := by
    rw [sharedRetry_eq, if_congr (retry_mem_values_iff hentries) rfl rfl, apply_ite (printed 1),
      printed_retryBlock]
    rfl
  refine ⟨hfields, hentries, hsetup, ?_⟩
  have hretry : retryRows.filterMap assigned? = ["retry"] := by decide +kernel
  have hnone : ∀ row ∈ client.entryTexts.map (tabs 2 ++ ·), assigned? row = none := by
    simp only [entryTexts, methodNames, List.map_map, List.forall_mem_map, Function.comp_apply]
    exact fun method hm => assigned?_entry (h method hm)
  rw [filterMap_assigned?_defaultsRows hnone, hsetup, apply_ite (List.filterMap assigned?), hretry]
  rfl

end Client

namespace Run

open Client

variable {files : List File} {options : Options} {names : List String} {clients : List Client}

theorem forall₂_outputFiles {R : Client → OutputFile → Prop} {declared : List String}
    (h : ∀ client ∈ clients, ∀ declared, R client (client.outputFile options declared)) :
    List.Forall₂ R clients (outputFiles options declared clients) := by
  induction clients generalizing declared with
  | nil => exact .nil
  | cons client clients ih =>
    exact .cons (h client List.mem_cons_self declared)
      (ih fun other ho => h other (List.mem_cons_of_mem _ ho))

theorem outputFiles_prefix : outputFiles options [] clients <+: packageFiles options clients := by
  unfold packageFiles
  split
  · rename_i hempty
    rw [List.isEmpty_iff.mp hempty]
    exact List.nil_prefix
  · exact List.prefix_append _ _

/-- A run writes a file for each service that it is asked for, in order. If the methods of the
service have different names that are identifiers, the struct of call options in the file has a
field for each, and the function that gives the default options has an entry for each, under the
same name: the shared options if calls of the method are tried again, else none. The shared options
are declared once and before the entries if some entry takes them, and else they are not. -/
theorem callOptions_go_with_methods (h : (generateWith files names options).error = none) :
    ∃ outputs, outputs <+: (generateWith files names options).files ∧
      List.Forall₂ (fun service output =>
        output.name = options.outputFile (snakeCase service.name ++ "_client.go") ∧
          ((∀ method ∈ service.methods, IsName method.name) →
            (service.methods.map (·.name)).Nodup →
              ∃ before fields between setup entries after,
                output.content = ofRows (before ++
                  optionsRows (Naming.clientStem service.name options.pkgName) fields ++ between ++
                  defaultsRows (Naming.clientStem service.name options.pkgName) setup entries ++
                  after) ∧
                GivesOptions service.methods (Naming.clientStem service.name options.pkgName) fields
                  setup entries))
        (requested files names) outputs := by
  obtain ⟨clients, hrun⟩ := error_generateWith_eq_none_iff.mp h
  refine ⟨outputFiles options [] clients, ?_, ?_⟩
  · rw [generateWith, hrun]
    exact outputFiles_prefix
  · rw [← map_service_clients hrun, List.forall₂_map_left_iff]
    refine forall₂_outputFiles fun client hc declared => ⟨rfl, fun hnames hnodup => ?_⟩
    obtain ⟨_, _, _, _, service, _, hr⟩ := exists_resolved hrun hc
    have hstem : client.stem = Naming.clientStem client.service.name options.pkgName := by
      rw [hr.stem_eq, hr.service_eq]
    have hmethods : ∀ name ∈ client.methodNames, IsName name := by
      rw [methodNames, List.forall_mem_map]
      exact hnames
    obtain ⟨before, between, after, hbody⟩ := exists_body_eq hmethods declared
    rw [← hstem]
    refine ⟨printed 0 (Header.code options client.imports none) ++ before, _, between,
      _, _, after, ?_, givesOptions hnames hnodup⟩
    rw [outputFile, hbody, header, render_eq, written_eq_ofRows, ← ofRows_append]
    simp only [List.append_assoc]

def orders : Service where
  name := "Orders"
  defaultHost := some "orders.example.com"
  methods := [
    { name := "GetOrder", inputType := ".orders.Order", outputType := ".orders.Order"
      http := some ⟨.get, "/v1/orders"⟩ },
    { name := "PutOrder", inputType := ".orders.Order", outputType := ".orders.Order" }]

def ordersFiles : List File := [
  { name := "orders.proto"
    package := "orders"
    goPackage := some "example.com/orders;orderspb"
    messages := [{ name := "Order" }]
    services := [orders] }]

def ordersOptions : Options := { pkgPath := "example.com/orders/apiv1", pkgName := "orders" }

theorem callOptions_go_with_methods_orders :
    (generateWith ordersFiles ["orders.proto"] ordersOptions).error = none ∧
      ∃ output ∈ (generateWith ordersFiles ["orders.proto"] ordersOptions).files,
        ∃ before fields between entries after,
          output.content = ofRows (before ++ optionsRows "" fields ++ between ++
            defaultsRows "" retryRows entries ++ after) ∧
          fields.map field? =
            [some ("GetOrder", "[]gax.CallOption"), some ("PutOrder", "[]gax.CallOption")] ∧
          entries.map pair? =
            [some ("GetOrder", "retry"), some ("PutOrder", "[]gax.CallOption\x7b\x7d")] := by
  have hok :
      (generateWith ordersFiles ["orders.proto"] ordersOptions).error = none := by
    decide +kernel
  obtain ⟨outputs, ⟨rest, hfiles⟩, houtputs⟩ := callOptions_go_with_methods hok
  have hrequested : requested ordersFiles ["orders.proto"] = [orders] := by decide +kernel
  have hstem : Naming.clientStem orders.name ordersOptions.pkgName = "" := by decide +kernel
  rw [hrequested] at houtputs
  obtain ⟨output, _, ⟨_, houtput⟩, _, rfl⟩ := List.forall₂_cons_left_iff.mp houtputs
  obtain ⟨before, fields, between, setup, entries, after, hcontent, hrows⟩ :=
    houtput (by decide +kernel) (by decide)
  have hretry : "retry" ∈ values entries := (retry_mem_values_iff hrows.entries_eq).mpr (by decide)
  rw [hstem, hrows.setup_eq, if_pos hretry] at hcontent
  refine ⟨hok, output, ?_, before, fields, between, entries, after, hcontent, hrows.fields_eq,
    hrows.entries_eq.trans (by decide)⟩
  rw [← hfiles]
  exact List.mem_append_left _ List.mem_cons_self

end Run

end ClientGen
