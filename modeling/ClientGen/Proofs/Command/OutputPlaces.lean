import ClientGen.Proofs.Command.Ending
import ClientGen.Proofs.Options.OutputDir
import ClientGen.Proofs.Run.FileNames
import ClientGen.Proofs.Text.Words

namespace ClientGen

open FileTree Text Run

variable {options : Options} {files : List Schema.File} {wanted : List String} {name : String}

theorem Options.isInner_outputFile_iff (hslash : '/' ∉ name.toList) (hback : name ≠ "..") :
    IsInner (options.outputFile name) ↔ IsInner options.outputDir := by
  have hnames : ".." ∉ names name := by
    have hpieces : pieces '/' name = [name] := by
      rw [pieces, List.splitOn_eq_singleton hslash]
      simp
    rw [names, hpieces]
    exact fun hmem => hback (List.mem_singleton.mp (List.mem_filter.mp hmem).1).symm
  unfold outputFile
  dsimp only
  split
  · rename_i hempty
    rw [String.isEmpty_iff.mp hempty]
    have hname : IsInner name := ⟨fun hhead => hslash (List.mem_of_head? hhead), hnames⟩
    exact iff_of_true hname (by decide)
  · rename_i hempty
    have hhead :
        (options.outputDir ++ "/" ++ name).toList.head? = options.outputDir.toList.head? := by
      have hne : options.outputDir.toList ≠ [] := by simpa using hempty
      rw [String.toList_append, String.toList_append, List.append_assoc,
        List.head?_append_of_ne_nil _ hne]
    rw [IsInner, IsInner, hhead, names_append_slash, List.mem_append, not_or]
    exact and_congr_right fun _ => and_iff_left hnames

/-- The directory is relative just if the path of the package is, or its front is taken off. -/
theorem Options.isInner_outputDir_iff : IsInner options.outputDir ↔ ".." ∉ names options.outputDir ∧
    (options.pkgPath.toList.head? = some '/' → ∃ root rest, options.IsBelow root rest) := by
  rw [IsInner, and_comm]
  refine and_congr_right fun _ => ?_
  by_cases h : ∃ root rest, options.IsBelow root rest
  · obtain ⟨root, rest, hbelow⟩ := h
    rw [outputDir_of_isBelow hbelow]
    have hhead := (dropLeading_eq_iff.mp (rfl : dropLeading '/' rest = _)).1
    exact iff_of_true hhead fun _ => ⟨root, rest, hbelow⟩
  · rw [outputDir_of_not_isBelow fun root rest hbelow => h ⟨root, rest, hbelow⟩]
    exact ⟨fun hhead hslash => absurd hslash hhead, fun hhead hslash => h (hhead hslash)⟩

/-- Each file of a run is named by one segment below the directory of the package. -/
theorem Run.exists_name_of_mem {file : OutputFile}
    (h : file ∈ (generateWith files wanted options).files) :
    ∃ name, file.name = options.outputFile name ∧ '/' ∉ name.toList ∧ name ≠ ".." := by
  unfold generateWith at h
  split at h
  · rename_i clients _
    unfold packageFiles at h
    split at h
    · cases h
    · rw [List.mem_append, List.mem_singleton] at h
      obtain h | rfl := h
      · have hname := List.mem_map_of_mem (f := OutputFile.name) h
        rw [map_name_outputFiles] at hname
        obtain ⟨client, _, hclient⟩ := List.mem_map.mp hname
        refine ⟨_, hclient.symm, fun hslash => ?_, fun hback => ?_⟩
        · rw [String.toList_append, List.mem_append] at hslash
          obtain hslash | hslash := hslash
          · exact absurd (isOrdinary_of_mem_snakeCase hslash) (by decide)
          · exact absurd hslash (by decide)
        · have hlength := congrArg String.length hback
          rw [String.length_append] at hlength
          have hclient : "_client.go".length = 10 := by decide
          have hdots : "..".length = 2 := by decide
          omega
      · exact ⟨_, rfl, by decide, by decide⟩
  · cases h

theorem Run.forall_isInner_iff :
    (∀ file ∈ (generateWith files wanted options).files, IsInner file.name) ↔
      (generateWith files wanted options).files = [] ∨ IsInner options.outputDir := by
  constructor
  · intro h
    cases hfiles : (generateWith files wanted options).files with
    | nil => exact .inl rfl
    | cons file rest =>
      have hmem : file ∈ (generateWith files wanted options).files := by
        rw [hfiles]
        exact List.mem_cons_self
      obtain ⟨name, hname, hslash, hback⟩ := exists_name_of_mem hmem
      have hinner := h file hmem
      rw [hname, Options.isInner_outputFile_iff hslash hback] at hinner
      exact .inr hinner
  · rintro (hempty | hinner) file hmem
    · rw [hempty] at hmem
      cases hmem
    · obtain ⟨name, hname, hslash, hback⟩ := exists_name_of_mem hmem
      rw [hname, Options.isInner_outputFile_iff hslash hback]
      exact hinner

namespace Command

open Schema

variable {request : Request} {year : Int32} {output : Output} {input : Wire.Bytes}
  {before after : FileTree} {dir : String} {result : Except Failure Unit}

/-- A run without an error is one for the options of its request, with or without the year of
today. -/
theorem exists_generateWith_eq (houtput : output ∈ [generate request, request.run year])
    (h : output.error = none) : ∃ options, Options.parse request.parameter = .ok options ∧
      ∃ year, output = generateWith request.files request.filesToGenerate
        { options with copyrightYear := year } := by
  rw [List.mem_pair] at houtput
  cases hparse : Options.parse request.parameter with
  | error fault =>
    obtain rfl | rfl := houtput
    · rw [generate, hparse] at h
      cases h
    · rw [Request.run, hparse] at h
      cases h
  | ok options =>
    refine ⟨options, rfl, ?_⟩
    obtain rfl | rfl := houtput
    · exact ⟨options.copyrightYear, by rw [generate, hparse]⟩
    · exact ⟨_, by rw [Request.run, hparse]⟩

/-- Files whose names lead below any directory change nothing outside the one they are written
to. -/
theorem prefix_of_writeFiles (hinner : ∀ file ∈ output.files, IsInner file.name)
    (hrun : (writeFiles (system input) dir output).run before = (result, after)) {place : Path}
    (hplace : after.files.lookup place ≠ before.files.lookup place) : target dir <+: place := by
  unfold writeFiles at hrun
  split at hrun
  · cases hrun
    exact absurd rfl hplace
  · obtain ⟨_, _, written, rest, heach, hsplit, hfiles, _⟩ :=
      run_writeEach input dir output.files before
    cases heach.symm.trans hrun
    cases hlookup : (written.map (entry dir)).reverse.lookup place with
    | none =>
      rw [hfiles, hlookup] at hplace
      exact absurd rfl hplace
    | some content =>
      obtain ⟨front, back, hentries, _⟩ := List.lookup_eq_some_iff.mp hlookup
      have hmem : (place, content) ∈ written.map (entry dir) := by
        rw [← List.mem_reverse, hentries]
        simp
      obtain ⟨file, hf, hentry⟩ := List.mem_map.mp hmem
      have hname : IsInner file.name := hinner file (by simp [hsplit, hf])
      rw [entry, target_joinPath dir hname] at hentry
      exact ⟨names file.name, congrArg Prod.fst hentry⟩

/-- The names of a run's files lead below any directory just if there are no files, or the directory
of the package does: none of its segments is two dots, and a path of the package that begins with a
slash begins with the root of a module, which is taken off with the slashes after it. Then nothing
outside the directory that the files are written to is changed. -/
theorem isInner_name_iff (houtput : output ∈ [generate request, request.run year])
    (h : output.error = none) : ∃ options, Options.parse request.parameter = .ok options ∧
      ((∀ file ∈ output.files, IsInner file.name) ↔ output.files = [] ∨
        ".." ∉ names options.outputDir ∧
          (options.pkgPath.toList.head? = some '/' → ∃ root rest, options.IsBelow root rest)) ∧
      ((∀ file ∈ output.files, IsInner file.name) → ∀ input dir before result after,
        (writeFiles (system input) dir output).run before = (result, after) →
          ∀ place, after.files.lookup place ≠ before.files.lookup place → target dir <+: place) := by
  obtain ⟨options, hparse, year, rfl⟩ := exists_generateWith_eq houtput h
  refine ⟨options, hparse, ?_, fun hinner input dir before result after hrun place hplace => ?_⟩
  · rw [Run.forall_isInner_iff, ← Options.isInner_outputDir_iff]
    rfl
  · exact prefix_of_writeFiles hinner hrun hplace

theorem isInner_name_depot :
    ((depotRequest "example.com/depot/apiv1").run 2024).files.map (·.name) =
        ["example.com/depot/apiv1/stock_client.go", "example.com/depot/apiv1/doc.go"] ∧
      ∃ result after,
        (writeFiles (system []) "out" ((depotRequest "example.com/depot/apiv1").run 2024)).run
            (depotTree "example.com/depot/apiv1") = (result, after) ∧
          ∀ place, after.files.lookup place ≠
            (depotTree "example.com/depot/apiv1").files.lookup place → ["out"] <+: place := by
  have hok : ((depotRequest "example.com/depot/apiv1").run 2024).error = none := by decide +kernel
  have hoptions : Options.parse (depotRequest "example.com/depot/apiv1").parameter =
      .ok { pkgPath := "example.com/depot/apiv1", pkgName := "depot" } := by decide +kernel
  obtain ⟨options, hparse, hinner, hplaces⟩ :=
    isInner_name_iff (List.mem_pair.mpr (.inr rfl)) hok
  cases hoptions.symm.trans hparse
  have hdir := hinner.mpr (.inr ⟨by decide, fun hslash => absurd hslash (by decide)⟩)
  obtain ⟨⟨result, after⟩, hrun⟩ : ∃ ending, (writeFiles (system []) "out"
      ((depotRequest "example.com/depot/apiv1").run 2024)).run
        (depotTree "example.com/depot/apiv1") = ending := ⟨_, rfl⟩
  exact ⟨by decide +kernel, result, after, hrun, hplaces hdir [] "out" _ result after hrun⟩

/-- A package whose path begins with a slash takes files out of the directory that they are to be
written below. -/
theorem not_isInner_name :
    (generate (depotRequest "/apiv1")).error = none ∧
      (generate (depotRequest "/apiv1")).files.map (·.name) =
        ["/apiv1/stock_client.go", "/apiv1/doc.go"] ∧
      (¬∀ file ∈ (generate (depotRequest "/apiv1")).files, IsInner file.name) ∧
      ((Command.run (system []) depotArgs none 2024).run (depotTree "/apiv1")).1.status = .success ∧
      ((Command.run (system []) depotArgs none 2024).run (depotTree "/apiv1")).2.below
        (target "out") = [] := by
  rw [run_depot]
  refine ⟨?_, ?_, ?_, ?_, ?_⟩
  all_goals decide +kernel

end Command

end ClientGen
