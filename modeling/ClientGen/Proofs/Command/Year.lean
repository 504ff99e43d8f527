import ClientGen.Command.Basic
import ClientGen.Proofs.Client.FileItems
import ClientGen.Proofs.Options.Parsing

namespace ClientGen

open Schema Emitter

def Options.dated (options : Options) (year : Option Int32) : Options :=
  { options with copyrightYear := year }

namespace Header

theorem isLine_copyright (year : Option Int32) : IsLine 0 0 (copyright year) := by
  cases year with
  | none => exact .ofList (by decide)
  | some year =>
    exact ((Front.ofList (by decide)).append (newline_notMem_toString year.toInt)).line (by decide)

/-- The year stands on the first row of a header, and nothing below depends on it. -/
theorem render_code_dated (options : Options) (imports : ImportSet) (doc : Option String)
    (year : Option Int32) : render (code (options.dated year) imports doc) =
      copyright year ++ "\n" ++ render (code options imports doc).tail := by
  have hcode : code (options.dated year) imports doc =
      [.line (copyright year)] ++ (code options imports doc).tail := rfl
  have hlevel : levelAfter 0 [.line (copyright year)] = 0 :=
    levelAfter_of_levelAfter? (Tidy.line (isLine_copyright year)).level_eq
  rw [hcode, render_eq, written_append, written_line_of_isLine (isLine_copyright year), hlevel]
  rfl

end Header

def OutputFile.DifferInRow (first second : String) (a b : OutputFile) : Prop :=
  a.name = b.name ∧ ∃ below, a.content = first ++ "\n" ++ below ∧ b.content = second ++ "\n" ++ below

variable {options : Options} {year other : Option Int32}

theorem Client.differInRow_outputFile (client : Client) (declared : List String) :
    OutputFile.DifferInRow (Header.copyright year) (Header.copyright other)
      (client.outputFile (options.dated year) declared)
      (client.outputFile (options.dated other) declared) := by
  have hcontent (year : Option Int32) : (client.outputFile (options.dated year) declared).content =
      Header.copyright year ++ "\n" ++
        (render (Header.code options client.imports none).tail ++ client.body declared) := by
    rw [← String.append_assoc, ← Header.render_code_dated]
    rfl
  exact ⟨rfl, _, hcontent year, hcontent other⟩

theorem Doc.differInRow_outputFile :
    OutputFile.DifferInRow (Header.copyright year) (Header.copyright other)
      (outputFile (options.dated year)) (outputFile (options.dated other)) := by
  have hcontent (year : Option Int32) : (outputFile (options.dated year)).content =
      Header.copyright year ++ "\n" ++
        (render (Header.code options imports (some (summary options))).tail ++ render body) := by
    rw [← String.append_assoc, ← Header.render_code_dated]
    rfl
  exact ⟨rfl, _, hcontent year, hcontent other⟩

theorem Client.differInRow_outputFiles (declared : List String) (clients : List Client) :
    List.Forall₂ (OutputFile.DifferInRow (Header.copyright year) (Header.copyright other))
      (outputFiles (options.dated year) declared clients)
      (outputFiles (options.dated other) declared clients) := by
  induction clients generalizing declared with
  | nil => exact .nil
  | cons client clients ih => exact .cons (client.differInRow_outputFile declared) (ih _)

namespace Run

theorem differInRow_packageFiles (clients : List Client) :
    List.Forall₂ (OutputFile.DifferInRow (Header.copyright year) (Header.copyright other))
      (packageFiles (options.dated year) clients) (packageFiles (options.dated other) clients) := by
  unfold packageFiles
  split
  · exact .nil
  · exact List.rel_append (Client.differInRow_outputFiles [] clients)
      (.cons Doc.differInRow_outputFile .nil)

/-- Clients are resolved without the year. -/
theorem clients_dated (catalog : Catalog) (options : Options) (year : Option Int32)
    (names : List String) :
    clients catalog (options.dated year) names = clients catalog options names := rfl

/-- Runs with different years fail alike, and their files differ in the first rows alone. -/
theorem generateWith_dated (files : List File) (names : List String) (options : Options)
    (year other : Option Int32) :
    (generateWith files names (options.dated year)).error =
        (generateWith files names (options.dated other)).error ∧
      List.Forall₂ (OutputFile.DifferInRow (Header.copyright year) (Header.copyright other))
        (generateWith files names (options.dated year)).files
        (generateWith files names (options.dated other)).files := by
  unfold generateWith
  rw [clients_dated, clients_dated]
  cases clients (.ofFiles files) options names with
  | ok clients => exact ⟨rfl, differInRow_packageFiles clients⟩
  | error error => exact ⟨rfl, .nil⟩

end Run

namespace Options

variable {parameter : Option String}

def SetsYear (parameter : Option String) : Prop :=
  ∃ part ∈ spoken (parameter.getD ""), ∃ year, Setting.Spells part (.copyrightYear year)

theorem exists_copyrightYear_iff (h : parse parameter = .ok options) :
    (∃ year, options.copyrightYear = some year) ↔ SetsYear parameter := by
  obtain ⟨settings, hspells, htakes⟩ := parse_eq_ok_iff.mp h
  constructor
  · rintro ⟨year, hyear⟩
    have hmem : Setting.copyrightYear year ∈ settings := by
      obtain ⟨before, after, rfl, _⟩ := (htakes.copyrightYear year).mp hyear
      exact List.mem_append_right _ List.mem_cons_self
    obtain ⟨part, hpart, hsays⟩ := Except.exists_mem_of_forall₂ hspells hmem
    exact ⟨part, hpart, year, hsays⟩
  · rintro ⟨part, hpart, year, hsays⟩
    obtain ⟨setting, hmem, hspelled⟩ := Except.exists_mem_of_forall₂ hspells.flip hpart
    cases hsays.eq hspelled
    have hyear : year ∈ settings.filterMap Setting.copyrightYear? :=
      List.mem_filterMap.mpr ⟨_, hmem, rfl⟩
    obtain ⟨last, hlast⟩ := Option.ne_none_iff_exists'.mp
      (List.getLast?_eq_none_iff.not.mpr (List.ne_nil_of_mem hyear))
    exact ⟨last, (htakes.copyrightYear last).mpr (getLast?_copyrightYear_eq_some_iff.mp hlast)⟩

end Options

theorem OutputFile.map_name_eq {first second : String} {files others : List OutputFile}
    (h : List.Forall₂ (DifferInRow first second) files others) :
    files.map (·.name) = others.map (·.name) := by
  induction h with
  | nil => rfl
  | cons hfile _ ih => rw [List.map_cons, List.map_cons, hfile.1, ih]

namespace Command

/-- A command and a plain run do the same for a request, but that the command has a year for files
when the parameter sets none. It stands on the first row of each file and nowhere else. -/
theorem run_agrees_with_generate (request : Request) (year : Int32) :
    (request.run year).error = (generate request).error ∧
      (request.run year).files.map (·.name) = (generate request).files.map (·.name) ∧
      (Options.SetsYear request.parameter → (request.run year).files = (generate request).files) ∧
      (¬Options.SetsYear request.parameter →
        List.Forall₂ (OutputFile.DifferInRow s!"// Copyright {year.toInt} Google LLC"
          "// Copyright Google LLC") (request.run year).files (generate request).files) := by
  unfold Request.run generate
  cases hparse : Options.parse request.parameter with
  | error fault => exact ⟨rfl, rfl, fun _ => rfl, fun _ => .nil⟩
  | ok options =>
    obtain ⟨herror, hfiles⟩ := Run.generateWith_dated request.files request.filesToGenerate options
      (some (options.copyrightYear.getD year)) options.copyrightYear
    rw [← Options.exists_copyrightYear_iff hparse]
    refine ⟨herror, OutputFile.map_name_eq hfiles, ?_, fun hnone => ?_⟩
    · rintro ⟨set, hset⟩
      have hsame : options.dated (some (options.copyrightYear.getD year)) = options := by
        rw [Options.dated, hset, Option.getD_some, ← hset]
      exact congrArg
        (fun options => (generateWith request.files request.filesToGenerate options).files) hsame
    · have hunset : options.copyrightYear = none := by
        cases hyear : options.copyrightYear with
        | none => rfl
        | some set => exact absurd ⟨set, hyear⟩ hnone
      have hgiven : Header.copyright (some (options.copyrightYear.getD year)) =
          s!"// Copyright {year.toInt} Google LLC" := by
        rw [hunset]
        rfl
      have hplain : Header.copyright options.copyrightYear = "// Copyright Google LLC" := by
        rw [hunset]
        rfl
      rw [hgiven, hplain] at hfiles
      exact hfiles

end Command

end ClientGen
