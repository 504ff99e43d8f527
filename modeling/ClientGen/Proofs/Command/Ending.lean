import ClientGen.Command.Basic
import ClientGen.Proofs.Command.FileTree
import ClientGen.Proofs.Command.JsonRequest

namespace ClientGen.Command

open Schema FileTree

variable {arguments : Arguments} {setting : Option String} {input : Wire.Bytes} {year : Int32}
  {before after : FileTree} {dir : String}

def requestFrom (arguments : Arguments) (input : Wire.Bytes) (tree : FileTree) :
    Except Failure Request :=
  match arguments.descriptorsJson, arguments.request with
  | some path, _ => requestOfJson (tree.read? path)
  | none, some path => (tree.read? path).elim (.error .io) Request.ofBytes
  | none, none => Request.ofBytes input

def entry (dir : String) (file : OutputFile) : Path × Wire.Bytes :=
  (target (joinPath dir file.name), file.content.toUTF8.toList)

/-- How a command that shows neither version nor help ends, and what files it leaves. -/
inductive Ends (setting : Option String) (input : Wire.Bytes) (year : Int32) (before : FileTree) :
    Demand → Ending → FileTree → Prop
  | usage : Ends setting input year before .usage { status := .usage } before
  | filter {arguments : Arguments} {text : String}
      (hfilter : LogFilter.isValid (logLevel arguments setting) = false) :
      Ends setting input year before (.run arguments) { status := .failure (.general text) } before
  | unread {arguments : Arguments} {failure : Failure}
      (hfilter : LogFilter.isValid (logLevel arguments setting) = true)
      (hrequest : requestFrom arguments input before = .error failure) :
      Ends setting input year before (.run arguments) { status := .failure failure } before
  | response {arguments : Arguments} {request : Request}
      (hfilter : LogFilter.isValid (logLevel arguments setting) = true)
      (hrequest : requestFrom arguments input before = .ok request) (hdir : arguments.outDir = none) :
      Ends setting input year before (.run arguments)
        { status := .success, output := (request.run year).toBytes } before
  | refused {arguments : Arguments} {request : Request} {dir error : String}
      (hfilter : LogFilter.isValid (logLevel arguments setting) = true)
      (hrequest : requestFrom arguments input before = .ok request)
      (hdir : arguments.outDir = some dir) (herror : (request.run year).error = some error) :
      Ends setting input year before (.run arguments) { status := .failure (.general error) } before
  | written {arguments : Arguments} {request : Request} {dir : String} {after : FileTree}
      (hfilter : LogFilter.isValid (logLevel arguments setting) = true)
      (hrequest : requestFrom arguments input before = .ok request)
      (hdir : arguments.outDir = some dir) (herror : (request.run year).error = none)
      (hfiles : Overwritten before after ((request.run year).files.map (entry dir))) :
      Ends setting input year before (.run arguments) { status := .success } after
  | stopped {arguments : Arguments} {request : Request} {dir : String} {after : FileTree}
      {written rest : List OutputFile}
      (hfilter : LogFilter.isValid (logLevel arguments setting) = true)
      (hrequest : requestFrom arguments input before = .ok request)
      (hdir : arguments.outDir = some dir) (herror : (request.run year).error = none)
      (hsplit : (request.run year).files = written ++ rest) (hrest : rest ≠ [])
      (hfiles : Overwritten before after (written.map (entry dir))) :
      Ends setting input year before (.run arguments) { status := .failure .io } after

theorem run_loadRequest (arguments : Arguments) (input : Wire.Bytes) (tree : FileTree) :
    (loadRequest (system input) arguments).run tree = (requestFrom arguments input tree, tree) := by
  cases hjson : arguments.descriptorsJson with
  | some path =>
    simp only [loadRequest, requestFrom, hjson]
    rfl
  | none =>
    cases hfile : arguments.request with
    | none =>
      simp only [loadRequest, requestFrom, hjson, hfile]
      rfl
    | some path =>
      have hread : ((system input).readFile path).run tree = (tree.read? path, tree) := rfl
      simp only [loadRequest, requestFrom, hjson, hfile, StateT.run_bind, hread]
      cases tree.read? path <;> rfl

theorem run_writeEach_cons (input : Wire.Bytes) (dir : String) (file : OutputFile)
    (files : List OutputFile) (tree : FileTree) :
    (writeEach (system input) dir (file :: files)).run tree =
      if (tree.write (joinPath dir file.name) file.content.toUTF8.toList).2 then
        (writeEach (system input) dir files).run
          (tree.write (joinPath dir file.name) file.content.toUTF8.toList).1
      else (.error .io, (tree.write (joinPath dir file.name) file.content.toUTF8.toList).1) := by
  have hwrite : ((system input).writeFile (joinPath dir file.name) file.content).run tree =
      ((tree.write (joinPath dir file.name) file.content.toUTF8.toList).2,
        (tree.write (joinPath dir file.name) file.content.toUTF8.toList).1) := rfl
  rw [writeEach, StateT.run_bind, hwrite]
  cases (tree.write (joinPath dir file.name) file.content.toUTF8.toList).2 <;> rfl

/-- Files are written one after the other, up to the first that cannot be. -/
theorem run_writeEach (input : Wire.Bytes) (dir : String) (files : List OutputFile)
    (before : FileTree) :
    ∃ result after written rest,
      (writeEach (system input) dir files).run before = (result, after) ∧ files = written ++ rest ∧
        Overwritten before after (written.map (entry dir)) ∧
          (result = .ok () ∧ rest = [] ∨ result = .error .io ∧ rest ≠ []) := by
  induction files generalizing before with
  | nil => exact ⟨.ok (), before, [], [], rfl, rfl, fun _ => rfl, .inl ⟨rfl, rfl⟩⟩
  | cons file files ih =>
    rw [run_writeEach_cons]
    split
    · rename_i hwritten
      obtain ⟨result, after, written, rest, hrun, hsplit, hafter, hresult⟩ :=
        ih (before.write (joinPath dir file.name) file.content.toUTF8.toList).1
      refine ⟨result, after, file :: written, rest, hrun, by rw [hsplit]; rfl, ?_, hresult⟩
      exact hafter.cons (lookup_write_of_true hwritten)
    · rename_i hfailed
      refine ⟨.error .io, _, [], file :: files, rfl, rfl, fun place => ?_, .inr ⟨rfl, by simp⟩⟩
      rw [write_spec, if_neg hfailed]
      rfl

theorem run_answer (year : Int32) (hfilter : LogFilter.isValid (logLevel arguments setting) = true)
    {request : Request} (hrequest : requestFrom arguments input before = .ok request) :
    ∃ ending after, (answer (system input) arguments request year).run before = (ending, after) ∧
      Ends setting input year before (.run arguments) ending after := by
  cases hdir : arguments.outDir with
  | none =>
    refine ⟨_, _, ?_, .response hfilter hrequest hdir⟩
    simp only [answer, hdir]
    rfl
  | some dir =>
    cases herror : (request.run year).error with
    | some error =>
      refine ⟨_, _, ?_, .refused hfilter hrequest hdir herror⟩
      simp only [answer, hdir, writeFiles, herror]
      rfl
    | none =>
      obtain ⟨result, after, written, rest, hrun, hsplit, hafter, ⟨rfl, rfl⟩ | ⟨rfl, hrest⟩⟩ :=
        run_writeEach input dir (request.run year).files before
      · rw [List.append_nil] at hsplit
        subst hsplit
        refine ⟨_, after, ?_, .written hfilter hrequest hdir herror hafter⟩
        simp only [answer, hdir, writeFiles, herror, StateT.run_bind, hrun]
        rfl
      · refine ⟨_, after, ?_, .stopped hfilter hrequest hdir herror hsplit hrest hafter⟩
        simp only [answer, hdir, writeFiles, herror, StateT.run_bind, hrun]
        rfl

theorem perform_of_filter {m : Type → Type} [Monad m] (system : System m) (year : Int32)
    (h : LogFilter.isValid (logLevel arguments setting) = false) :
    perform system arguments setting year =
      pure ⟨.failure (.general s!"invalid log filter {Text.quoted (logLevel arguments setting)}"),
        []⟩ := by
  simp [perform, h]

theorem run_perform_eq (hfilter : LogFilter.isValid (logLevel arguments setting) = true)
    (input : Wire.Bytes) (year : Int32) (before : FileTree) :
    (perform (system input) arguments setting year).run before =
      match requestFrom arguments input before with
      | .ok request => (answer (system input) arguments request year).run before
      | .error failure => (⟨.failure failure, []⟩, before) := by
  simp only [perform, hfilter, if_true, StateT.run_bind, run_loadRequest]
  cases requestFrom arguments input before <;> rfl

theorem run_perform (arguments : Arguments) (setting : Option String) (input : Wire.Bytes)
    (year : Int32) (before : FileTree) :
    ∃ ending after,
      (perform (system input) arguments setting year).run before = (ending, after) ∧
        Ends setting input year before (.run arguments) ending after := by
  cases hfilter : LogFilter.isValid (logLevel arguments setting) with
  | false => exact ⟨_, _, by rw [perform_of_filter _ year hfilter]; rfl, .filter hfilter⟩
  | true =>
    rw [run_perform_eq hfilter]
    cases hrequest : requestFrom arguments input before with
    | error failure => exact ⟨_, _, rfl, .unread hfilter hrequest⟩
    | ok request => exact run_answer year hfilter hrequest

theorem run_ends (args : List String) (setting : Option String) (input : Wire.Bytes) (year : Int32)
    (before : FileTree) (hversion : Arguments.read args ≠ .version)
    (hhelp : Arguments.read args ≠ .help) :
    ∃ ending after, (Command.run (system input) args setting year).run before = (ending, after) ∧
      Ends setting input year before (Arguments.read args) ending after := by
  unfold Command.run
  cases hread : Arguments.read args with
  | run arguments => exact run_perform arguments setting input year before
  | version => exact absurd hread hversion
  | help => exact absurd hread hhelp
  | usage => exact ⟨_, _, rfl, .usage⟩

theorem lookup_map_append (dir rest : Path) (entries : List (Path × Wire.Bytes)) :
    (entries.map fun (names, content) => (dir ++ names, content)).lookup (dir ++ rest) =
      entries.lookup rest := by
  induction entries with
  | nil => rfl
  | cons entry entries ih =>
    obtain ⟨names, content⟩ := entry
    rw [List.map_cons, Table.lookup_entry, Table.lookup_entry, ih]
    simp

/-- Files with names that never lead back are found below the directory. -/
theorem lookup_below {files : List OutputFile} {dir : String}
    (h : Overwritten before after (files.map (entry dir)))
    (hinner : ∀ file ∈ files, IsInner file.name) (rest : Path) :
    after.files.lookup (target dir ++ rest) =
      ((files.map fun file => (names file.name, file.content.toUTF8.toList)).reverse.lookup rest).or
        (before.files.lookup (target dir ++ rest)) := by
  have hentries : files.map (entry dir) =
      (files.map fun file => (names file.name, file.content.toUTF8.toList)).map
        fun (names, content) => (target dir ++ names, content) := by
    rw [List.map_map]
    refine List.map_congr_left fun file hf => ?_
    rw [entry, target_joinPath dir (hinner file hf)]
    rfl
  rw [h, hentries, ← List.map_reverse, lookup_map_append]

/-- Whatever a command is given, standard output carries one complete response or nothing. It
carries a response just if the command succeeds and is to write no files, and then the response may
carry the error of the run. Files are written only for a run without an error, each at the target of
its path, and a command that fails leaves files only if one of them could not be written. -/
theorem run_answers_or_writes (args : List String) (setting : Option String) (input : Wire.Bytes)
    (year : Int32) (before : FileTree) (hversion : Arguments.read args ≠ .version)
    (hhelp : Arguments.read args ≠ .help) :
    ∃ ending after, (Command.run (system input) args setting year).run before = (ending, after) ∧
      (ending.status ≠ .success → ending.output = []) ∧
      (ending.status = .success → ∃ arguments request, Arguments.read args = .run arguments ∧
        requestFrom arguments input before = .ok request ∧
          (arguments.outDir = none ∧ ending.output = (request.run year).toBytes ∧ after = before ∨
            ∃ dir, arguments.outDir = some dir ∧ ending.output = [] ∧
              (request.run year).error = none ∧
              Overwritten before after ((request.run year).files.map (entry dir)) ∧
              ((∀ file ∈ (request.run year).files, IsInner file.name) → ∀ rest,
                after.files.lookup (target dir ++ rest) =
                  (((request.run year).files.map fun file =>
                    (names file.name, file.content.toUTF8.toList)).reverse.lookup rest).or
                    (before.files.lookup (target dir ++ rest))))) ∧
      (∀ arguments request, Arguments.read args = .run arguments →
        LogFilter.isValid (logLevel arguments setting) = true →
          requestFrom arguments input before = .ok request →
            (arguments.outDir = none → ending.status = .success) ∧
              ∀ dir error, arguments.outDir = some dir → (request.run year).error = some error →
                ending.status = .failure (.general error) ∧ after = before) ∧
      (ending.status ≠ .success → after ≠ before →
        ending.status = .failure .io ∧ ∃ arguments request dir written rest,
          Arguments.read args = .run arguments ∧ requestFrom arguments input before = .ok request ∧
            arguments.outDir = some dir ∧ (request.run year).error = none ∧
              (request.run year).files = written ++ rest ∧ rest ≠ [] ∧
                Overwritten before after (written.map (entry dir))) ∧
      ∀ arguments, Arguments.read args = .run arguments →
        LogFilter.isValid (logLevel arguments setting) = false →
          ∃ text, ∀ (m : Type → Type) [Monad m] (system : System m),
            Command.run system args setting year = pure ⟨.failure (.general text), []⟩ := by
  obtain ⟨ending, after, hrun, hends⟩ := run_ends args setting input year before hversion hhelp
  refine ⟨ending, after, hrun, ?_, ?_, ?_, ?_, ?_⟩
  all_goals generalize hdemand : Arguments.read args = demand at hends
  · cases hends with
    | usage | filter _ | unread _ _ | refused _ _ _ _ | written _ _ _ _ _ | stopped _ _ _ _ _ _ _ =>
      exact fun _ => rfl
    | response _ _ _ => exact fun h => absurd rfl h
  · intro hsuccess
    cases hends with
    | usage | filter _ | unread _ _ | refused _ _ _ _ | stopped _ _ _ _ _ _ _ => cases hsuccess
    | response _ hrequest hdir => exact ⟨_, _, rfl, hrequest, .inl ⟨hdir, rfl, rfl⟩⟩
    | written _ hrequest hdir herror hfiles =>
      exact ⟨_, _, rfl, hrequest, .inr ⟨_, hdir, rfl, herror, hfiles, lookup_below hfiles⟩⟩
  · rintro arguments request rfl hfilter hrequest
    cases hends with
    | filter hinvalid => exact absurd (hfilter.symm.trans hinvalid) (by decide)
    | unread _ hfailed => exact absurd (hrequest.symm.trans hfailed) (by simp)
    | response _ _ hdir =>
      refine ⟨fun _ => rfl, fun dir error hother => ?_⟩
      exact absurd (hdir.symm.trans hother) (by simp)
    | refused _ hread hdir herror =>
      cases hrequest.symm.trans hread
      refine ⟨fun hnone => absurd (hdir.symm.trans hnone) (by simp), fun dir error _ hother => ?_⟩
      cases herror.symm.trans hother
      exact ⟨rfl, rfl⟩
    | written _ hread hdir herror _ =>
      cases hrequest.symm.trans hread
      refine ⟨fun _ => rfl, fun dir error _ hother => ?_⟩
      exact absurd (herror.symm.trans hother) (by simp)
    | stopped _ hread hdir herror _ _ _ =>
      cases hrequest.symm.trans hread
      refine ⟨fun hnone => absurd (hdir.symm.trans hnone) (by simp), fun dir error _ hother => ?_⟩
      exact absurd (herror.symm.trans hother) (by simp)
  · intro hfailed hchanged
    cases hends with
    | usage | filter _ | unread _ _ | refused _ _ _ _ => exact absurd rfl hchanged
    | response _ _ _ | written _ _ _ _ _ => exact absurd rfl hfailed
    | stopped _ hrequest hdir herror hsplit hrest hfiles =>
      exact ⟨rfl, _, _, _, _, _, rfl, hrequest, hdir, herror, hsplit, hrest, hfiles⟩
  · rintro arguments rfl hinvalid
    refine ⟨s!"invalid log filter {Text.quoted (logLevel arguments setting)}", fun m _ system => ?_⟩
    rw [Command.run, hdemand]
    exact perform_of_filter system year hinvalid

def depotRequest (package : String) : Request where
  files := [
    { name := "depot.proto"
      package := "depot"
      goPackage := some "example.com/depot;depotpb"
      services := [{ name := "Stock", defaultHost := some "depot.example.com" }] }]
  filesToGenerate := ["depot.proto"]
  parameter := some ("go-gapic-package=" ++ package ++ ";depot")

def depotTree (package : String) : FileTree where
  files := [(["depot.json"], (String.ofList (depotRequest package).toJson.write).toUTF8.toList)]

def depotArgs : List String := ["--descriptors-json", "depot.json", "--out-dir", "out"]

def depotArguments : Arguments :=
  { descriptorsJson := some "depot.json", outDir := some "out" }

theorem requestFrom_depotTree (package : String) :
    requestFrom depotArguments [] (depotTree package) = .ok (depotRequest package) := by
  have hdepth : (depotRequest package).toJson.depth = 6 := rfl
  have htext : ofText? Request.decode (.ofList (depotRequest package).toJson.write) =
      some (depotRequest package) :=
    ofText?_of_spells (Request.reads _) (Request.writtenAs_toJson _) (spells_toJson _) (by omega)
  exact requestOfJson_toUTF8 htext

theorem run_depot (package : String) :
    (Command.run (system []) depotArgs none 2024).run (depotTree package) =
      (answer (system []) depotArguments (depotRequest package) 2024).run (depotTree package) := by
  have hargs : Arguments.read depotArgs = .run depotArguments := by decide
  rw [Command.run, hargs]
  refine (run_perform_eq (by decide) [] 2024 _).trans ?_
  rw [requestFrom_depotTree]

theorem run_answers_or_writes_depot :
    ∃ after, (Command.run (system []) depotArgs none 2024).run (depotTree "example.com/depot/apiv1") =
        (⟨.success, []⟩, after) ∧
      ∀ rest, after.files.lookup ("out" :: rest) =
        (((depotRequest "example.com/depot/apiv1").run 2024).files.map fun file =>
          (names file.name, file.content.toUTF8.toList)).reverse.lookup rest := by
  have hstatus : ((Command.run (system []) depotArgs none 2024).run
      (depotTree "example.com/depot/apiv1")).1.status = .success := by
    rw [run_depot]
    decide +kernel
  have hinner : ∀ file ∈ ((depotRequest "example.com/depot/apiv1").run 2024).files,
      IsInner file.name := by decide +kernel
  obtain ⟨⟨status, output⟩, after, hrun, -, hsuccess, -⟩ :=
    run_answers_or_writes depotArgs none [] 2024 (depotTree "example.com/depot/apiv1") (by decide)
      (by decide)
  rw [hrun] at hstatus ⊢
  obtain ⟨arguments, request, hread, hrequest, hanswer⟩ := hsuccess hstatus
  cases (show Arguments.read depotArgs = .run depotArguments by decide).symm.trans hread
  cases (requestFrom_depotTree _).symm.trans hrequest
  obtain ⟨hnone, _⟩ | ⟨dir, hdir, houtput, _, _, hbelow⟩ := hanswer
  · cases hnone
  · cases hdir
    cases hstatus
    cases houtput
    refine ⟨after, rfl, fun rest => ?_⟩
    have hbefore : (depotTree "example.com/depot/apiv1").files.lookup ("out" :: rest) = none := by
      simp [depotTree]
    rw [← Option.or_none (o := List.lookup rest _), ← hbefore]
    exact hbelow hinner rest

/-- Names that lead back take files out of the directory that they are to be written below. -/
theorem files_not_below :
    ((Command.run (system []) depotArgs none 2024).run (depotTree "../apiv1")).1.status = .success ∧
      ((depotRequest "../apiv1").run 2024).error = none ∧
      ((depotRequest "../apiv1").run 2024).files.map (·.name) =
        ["../apiv1/stock_client.go", "../apiv1/doc.go"] ∧
      ((Command.run (system []) depotArgs none 2024).run (depotTree "../apiv1")).2.below
        (target "out") = [] := by
  rw [run_depot]
  refine ⟨?_, ?_, ?_, ?_⟩
  all_goals decide +kernel

end ClientGen.Command
