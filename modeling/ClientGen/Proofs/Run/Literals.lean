import ClientGen.Proofs.Client.CallOptions
import ClientGen.Proofs.Import.Rows
import ClientGen.Proofs.Text.Literal

namespace ClientGen

open Schema Text Code Emitter

/-- A text that is written as a literal, with what stands around it on its line. -/
structure Quotation where
  before : String
  text : String
  after : String
deriving DecidableEq, Repr

namespace Quotation

def line (quotation : Quotation) : String :=
  quotation.before ++ quoted quotation.text ++ quotation.after

def Fills (quotation : Quotation) (row : String) : Prop :=
  ∃ lead, trimmed lead = trimmed quotation.before ∧
    row = lead ++ quoted quotation.text ++ quotation.after

def ofImport (spec : ImportSpec) : Quotation := ⟨.ofList spec.lead, spec.path, ""⟩

end Quotation

def Client.quotations (client : Client) : List Quotation :=
  ⟨"option.WithEndpoint(", client.endpoint, "),"⟩ ::
    (client.service.oauthScopes.map fun scope => ⟨"", scope, ","⟩) ++
    client.imports.specs.map .ofImport

def Doc.quotations : List Quotation :=
  Doc.imports.specs.map .ofImport ++ [⟨"const versionClient = ", Doc.generatorVersion, ""⟩]

def Run.quotations (clients : List Client) : List (List Quotation) :=
  if clients.isEmpty then [] else clients.map Client.quotations ++ [Doc.quotations]

variable {ops : List Op} {text : String} {quotation : Quotation}

namespace Quotation

theorem toList_line (quotation : Quotation) : quotation.line.toList = quotation.before.toList ++
    '"' :: (quotation.text.toList.flatMap Quoted.escape ++ '"' :: quotation.after.toList) := by
  simp [line, quoted, Quoted.chars]

theorem not_isBlankText_line (quotation : Quotation) : ¬IsBlankText quotation.line.toList := by
  intro hblank
  rw [toList_line] at hblank
  exact absurd (hblank '"' (by simp)) (by decide)

/-- The white space that a line loses is outside of its literal. -/
theorem fills_of_isRow {row : String} (hrow : IsRow row quotation.line)
    (hafter : trimEnd quotation.after.toList = quotation.after.toList) : quotation.Fills row := by
  obtain ⟨depth, rfl⟩ := hrow
  refine ⟨tabs depth ++ .ofList (trimStart quotation.before.toList), ?_, ?_⟩
  · rw [trimmed, String.toList_append, trim_append_of_blank_left (isBlankText_tabs depth),
      String.toList_ofList, trim_trimStart]
    rfl
  · have hquote : isBlank '"' = false := by decide
    rw [trimmed, toList_line, trim, trimStart_append_cons hquote, ← List.cons_append,
      ← List.append_assoc, trimEnd_append_cons hquote, hafter, ← String.toList_inj]
    simp [quoted, Quoted.chars]

theorem exists_fills_of_mem (h : .line quotation.line ∈ ops)
    (hafter : trimEnd quotation.after.toList = quotation.after.toList) (level : Nat) :
    ∃ row ∈ printed level ops, quotation.Fills row := by
  obtain ⟨row, hmem, hrow⟩ := exists_row_of_mem h quotation.not_isBlankText_line level
  exact ⟨row, hmem, fills_of_isRow hrow hafter⟩

theorem line_ofImport (spec : ImportSpec) : (ofImport spec).line = spec.render := by
  rw [← String.toList_inj, toList_line, spec.toList_render]
  simp [ofImport, Quoted.chars]

end Quotation

/-- Each import is quoted on a row of the header. -/
theorem Header.exists_fills {imports : ImportSet} {spec : ImportSpec} (h : spec ∈ imports.specs)
    (options : Options) (doc : Option String) :
    ∃ row ∈ printed 0 (code options imports doc), (Quotation.ofImport spec).Fills row := by
  obtain ⟨row, hmem, hrow⟩ := exists_shown h options doc
  refine ⟨row, hmem, Quotation.fills_of_isRow ?_ rfl⟩
  rw [Quotation.line_ofImport, spec.render_eq_spelling]
  exact hrow

namespace Client

theorem line_endpoint_mem (client : Client) :
    .line s!"option.WithEndpoint({quoted client.endpoint})," ∈ client.scaffold := by
  simp [scaffold, clientOptions, seq, block, Code.line]

theorem line_scope_mem {client : Client} {scope : String} (h : scope ∈ client.service.oauthScopes) :
    .line (quoted scope ++ ",") ∈ client.scaffold := by
  have hscopes : client.hasScopes = true := by
    rw [hasScopes, Bool.not_eq_true', List.isEmpty_eq_false_iff]
    exact List.ne_nil_of_mem h
  have hlines : .line (quoted scope ++ ",") ∈
      lines (client.service.oauthScopes.map fun scope => quoted scope ++ ",") :=
    List.mem_map_of_mem (List.mem_map_of_mem h)
  have hblock : .line (quoted scope ++ ",") ∈ client.authScopes := by
    rw [authScopes, hscopes]
    simp [when, seq, block, Code.line, hlines]
  rw [scaffold]
  simp only [seq, List.mem_flatten, List.mem_cons]
  exact ⟨_, .inr (.inr (.inl rfl)), hblock⟩

/-- The literals of a client fill rows of its file. -/
theorem exists_fills_outputFile (options : Options) (declared : List String) (client : Client) :
    ∃ rows, (client.outputFile options declared).content = ofRows rows ∧
      ∀ quotation ∈ client.quotations, ∃ row ∈ rows, quotation.Fills row := by
  have hscaffold (quotation : Quotation) (h : .line quotation.line ∈ client.scaffold)
      (hafter : trimEnd quotation.after.toList = quotation.after.toList) :
      ∃ row ∈ printed 0 (Code.seq [client.scaffold, client.calls.flatMap client.method,
        (newElements declared client.elements).flatMap Element.declaration]), quotation.Fills row :=
    Quotation.exists_fills_of_mem (List.mem_append_left _ h) hafter 0
  refine ⟨printed 0 (Header.code options client.imports none) ++ printed 0 (Code.seq [client.scaffold,
    client.calls.flatMap client.method,
    (newElements declared client.elements).flatMap Element.declaration]), ?_, fun quotation hq => ?_⟩
  · rw [ofRows_append, ← written_eq_ofRows, ← written_eq_ofRows]
    rfl
  · rw [quotations, List.mem_append, List.mem_cons, List.mem_map, List.mem_map] at hq
    obtain (rfl | ⟨scope, hscope, rfl⟩) | ⟨spec, hspec, rfl⟩ := hq
    · obtain ⟨row, hmem, hrow⟩ := hscaffold ⟨"option.WithEndpoint(", client.endpoint, "),"⟩
        client.line_endpoint_mem (show trimEnd "),".toList = "),".toList by decide)
      exact ⟨row, List.mem_append_right _ hmem, hrow⟩
    · obtain ⟨row, hmem, hrow⟩ := hscaffold ⟨"", scope, ","⟩
        (by simpa [Quotation.line] using line_scope_mem hscope)
        (show trimEnd ",".toList = ",".toList by decide)
      exact ⟨row, List.mem_append_right _ hmem, hrow⟩
    · obtain ⟨row, hmem, hrow⟩ := Header.exists_fills hspec options none
      exact ⟨row, List.mem_append_left _ hmem, hrow⟩

end Client

theorem Doc.exists_fills_outputFile (options : Options) :
    ∃ rows, (Doc.outputFile options).content = ofRows rows ∧
      ∀ quotation ∈ Doc.quotations, ∃ row ∈ rows, quotation.Fills row := by
  refine ⟨printed 0 (Header.code options imports (some (summary options))) ++ printed 0 body, ?_,
    fun quotation hq => ?_⟩
  · rw [ofRows_append, ← written_eq_ofRows, ← written_eq_ofRows]
    rfl
  · rw [quotations, List.mem_append, List.mem_map, List.mem_singleton] at hq
    obtain ⟨spec, hspec, rfl⟩ | rfl := hq
    · obtain ⟨row, hmem, hrow⟩ := Header.exists_fills hspec options (some (summary options))
      exact ⟨row, List.mem_append_left _ hmem, hrow⟩
    · have hline :
          .line (Quotation.line ⟨"const versionClient = ", generatorVersion, ""⟩) ∈ body := by
        simp [body, seq, Code.line, Quotation.line, toString]
      obtain ⟨row, hmem, hrow⟩ := Quotation.exists_fills_of_mem hline (by decide) 0
      exact ⟨row, List.mem_append_right _ hmem, hrow⟩

namespace Run

open Client

variable {files : List File} {options : Options} {names : List String} {clients : List Client}

theorem forall₂_quotations_packageFiles (options : Options) (clients : List Client) :
    List.Forall₂ (fun quotations output => ∃ rows, output.content = ofRows rows ∧
      ∀ quotation ∈ quotations, ∃ row ∈ rows, quotation.Fills row)
      (quotations clients) (packageFiles options clients) := by
  unfold quotations packageFiles
  split
  · exact .nil
  · refine List.rel_append ?_ (.cons (Doc.exists_fills_outputFile options) .nil)
    rw [List.forall₂_map_left_iff]
    exact forall₂_outputFiles fun client _ declared =>
      client.exists_fills_outputFile options declared

/-- Each host, scope and import path of a run stands quoted on a row of its own, and Go reads it
there as the text that it is just if all its characters are printed as they are or have an escape
that Go has too. The host of a client gets the port for HTTPS if it has none. -/
theorem literals_mean_texts_iff (h : Run.clients (.ofFiles files) options names = .ok clients) :
    clients.map (·.service) = requested files names ∧
      (∀ client ∈ clients, ∃ host, client.service.defaultHost = some host ∧
        client.endpoint = if ':' ∈ host.toList then host else host ++ ":443") ∧
      List.Forall₂ (fun quotations output => ∃ rows, output.content = ofRows rows ∧
        ∀ quotation ∈ quotations, (∃ row ∈ rows, quotation.Fills row) ∧
          (IsLiteral (quoted quotation.text) quotation.text.toUTF8.toList ↔
            ∀ c ∈ quotation.text.toList, Literal.isShared c))
        (quotations clients) (generateWith files names options).files := by
  refine ⟨map_service_clients h, fun client hc => ?_, ?_⟩
  · obtain ⟨_, _, _, _, service, _, hr⟩ := exists_resolved h hc
    refine ⟨client.host, ?_, ?_⟩
    · rw [hr.service_eq, hr.host_eq]
    · simp [endpoint]
  · rw [generateWith, h]
    refine (forall₂_quotations_packageFiles options clients).imp ?_
    rintro quotations output ⟨rows, hcontent, hrows⟩
    exact ⟨rows, hcontent, fun quotation hq => ⟨hrows quotation hq, isLiteral_quoted_iff⟩⟩

def hostFiles (host : String) : List File := [
  { name := "depot.proto"
    package := "depot"
    goPackage := some "example.com/depot;depotpb"
    services := [service host] }]
where
  service (host : String) : Service :=
    { name := "Stock", defaultHost := some host, oauthScopes := ["https://depot.example.com/auth"] }

def hostClient (host : String) : Client where
  service := hostFiles.service host
  fullName := ".depot.Stock"
  stem := "Stock"
  stub := ⟨"depotpb", "example.com/depot"⟩
  host := host
  doc := none
  calls := []

theorem literals_mean_texts_iff_port :
    Run.clients (.ofFiles (hostFiles "depot.example.com:8443")) depotOptions ["depot.proto"] =
        .ok [hostClient "depot.example.com:8443"] ∧
      ∃ output ∈ (generateWith (hostFiles "depot.example.com:8443") ["depot.proto"]
        depotOptions).files, ∃ rows, output.content = ofRows rows ∧
          (∃ row ∈ rows,
            (Quotation.mk "option.WithEndpoint(" "depot.example.com:8443" "),").Fills row) ∧
          IsLiteral (quoted "depot.example.com:8443") "depot.example.com:8443".toUTF8.toList ∧
          (∃ row ∈ rows, (Quotation.mk "depotpb " "example.com/depot" "").Fills row) ∧
          IsLiteral (quoted "example.com/depot") "example.com/depot".toUTF8.toList := by
  have hrun :
      Run.clients (.ofFiles (hostFiles "depot.example.com:8443")) depotOptions ["depot.proto"] =
      .ok [hostClient "depot.example.com:8443"] := by rfl
  obtain ⟨_, _, hfiles⟩ := literals_mean_texts_iff hrun
  obtain ⟨output, _, ⟨rows, hcontent, hrows⟩, _, houtputs⟩ := List.forall₂_cons_left_iff.mp hfiles
  obtain ⟨hendpoint, hhost⟩ := hrows ⟨"option.WithEndpoint(", "depot.example.com:8443", "),"⟩
    List.mem_cons_self
  obtain ⟨himport, hpath⟩ := hrows ⟨"depotpb ", "example.com/depot", ""⟩ (by decide +kernel)
  refine ⟨hrun, output, ?_, rows, hcontent, hendpoint,
    hhost.mpr (List.all_eq_true.mp (by decide +kernel)), himport,
    hpath.mpr (List.all_eq_true.mp (by decide +kernel))⟩
  rw [houtputs]
  exact List.mem_cons_self

/-- A mark that combines with the letter before it is written with an escape that Go lacks. -/
theorem endpoint_not_literal :
    (generateWith (hostFiles "cafe\u0301.example.com") ["depot.proto"] depotOptions).error = none ∧
      ∃ output ∈ (generateWith (hostFiles "cafe\u0301.example.com") ["depot.proto"]
        depotOptions).files, ∃ rows, output.content = ofRows rows ∧
          (∃ row ∈ rows,
            (Quotation.mk "option.WithEndpoint(" "cafe\u0301.example.com:443" "),").Fills row) ∧
          ∀ bytes, ¬IsLiteral (quoted "cafe\u0301.example.com:443") bytes := by
  have hrun :
      Run.clients (.ofFiles (hostFiles "cafe\u0301.example.com")) depotOptions ["depot.proto"] =
      .ok [hostClient "cafe\u0301.example.com"] := by rfl
  have hfiles := forall₂_quotations_packageFiles depotOptions [hostClient "cafe\u0301.example.com"]
  obtain ⟨output, _, ⟨rows, hcontent, hrows⟩, _, houtputs⟩ := List.forall₂_cons_left_iff.mp hfiles
  rw [generateWith, hrun]
  refine ⟨rfl, output, ?_, rows, hcontent,
    hrows ⟨"option.WithEndpoint(", "cafe\u0301.example.com:443", "),"⟩ List.mem_cons_self, ?_⟩
  · change output ∈ packageFiles depotOptions [hostClient "cafe\u0301.example.com"]
    rw [houtputs]
    exact List.mem_cons_self
  · exact not_isLiteral_quoted (c := '\u0301') (by decide) (by decide +kernel) (by decide)

end Run

end ClientGen
