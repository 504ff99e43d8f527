import ClientGen.Proofs.Client.Iterators
import ClientGen.Proofs.Run.InTurn

namespace ClientGen.Run

open Schema Client

variable {files : List File} {options : Options} {name : String} {names : List String}

/-- The sheets of a run over one file alone. There are none if it fails. -/
def sheetsOf (files : List File) (options : Options) (name : String) : List Sheet :=
  match clientsOf (.ofFiles files) options name with
  | .ok group => Sheet.ofClients options [] group
  | .error _ => []

theorem generateWith_one_of_ok {group : List Client}
    (h : clientsOf (.ofFiles files) options name = .ok group) :
    generateWith files [name] options =
      { files := Sheet.package options (sheetsOf files options name) } := by
  have hrun : Run.clients (.ofFiles files) options [name] = .ok (group ++ []) := by
    rw [clients_cons_of_ok h]
    rfl
  rw [generateWith, hrun, sheetsOf, h, List.append_nil]
  exact congrArg (Output.mk · none) Sheet.package_ofClients.symm

theorem generateWith_one_of_error {fault : Fault}
    (h : clientsOf (.ofFiles files) options name = .error fault) :
    generateWith files [name] options = { error := some s!"{name}: {fault.message}" } := by
  rw [generateWith, clients_cons_of_error h]

theorem files_generateWith_one (files : List File) (options : Options) (name : String) :
    (generateWith files [name] options).files =
    Sheet.package options (sheetsOf files options name) := by
  cases h : clientsOf (.ofFiles files) options name with
  | ok group => rw [generateWith_one_of_ok h]
  | error fault =>
    rw [generateWith_one_of_error h, sheetsOf, h]
    rfl

def firstError (files : List File) (names : List String) (options : Options) : Option String :=
  names.findSome? fun name => (generateWith files [name] options).error

theorem firstError_eq_none {clients : List Client}
    (h : Run.clients (.ofFiles files) options names = .ok clients) :
    firstError files names options = none := by
  induction names generalizing clients with
  | nil => rfl
  | cons name names ih =>
    obtain ⟨group, rest, hg, hrest, _⟩ := clients_cons_eq_ok_iff.mp h
    rw [firstError, List.findSome?_cons, generateWith_one_of_ok hg]
    exact ih hrest

theorem firstError_eq_some {error : String}
    (h : Run.clients (.ofFiles files) options names = .error error) :
    firstError files names options = some error := by
  induction names with
  | nil => cases h
  | cons name names ih =>
    rw [firstError, List.findSome?_cons]
    obtain ⟨fault, hg, rfl⟩ | ⟨group, hg, h⟩ := clients_cons_eq_error_iff.mp h
    · rw [generateWith_one_of_error hg]
    · rw [generateWith_one_of_ok hg]
      exact ih h

theorem flatMap_sheetsOf {groups : List (List Client)}
    (h : List.Forall₂ (fun name group => clientsOf (.ofFiles files) options name =
    .ok group) names groups) :
    names.flatMap (sheetsOf files options) = groups.flatMap (Sheet.ofClients options []) := by
  induction h with
  | nil => rfl
  | cons hg _ ih => rw [List.flatMap_cons, List.flatMap_cons, ih, sheetsOf, hg]

theorem generateWith_of_ok {clients : List Client}
    (h : Run.clients (.ofFiles files) options names = .ok clients) :
    generateWith files names options =
      { files := Sheet.package options (Sheet.leaveOut [] (names.flatMap (sheetsOf files options)))
      } := by
  obtain ⟨groups, hgroups, rfl⟩ := clients_eq_ok_iff.mp h
  rw [generateWith, h, flatMap_sheetsOf hgroups, Sheet.leaveOut_flatMap_ofClients,
    Sheet.package_ofClients]

/-- A run is made up of runs over one file each: it has their first error, or their client files
without the iterators that files before them declare. If no type of elements ends in a brace, all
that is left is written as it was. -/
theorem generateWith_eq_composition (files : List File) (names : List String) (options : Options) :
    (∀ name, (generateWith files [name] options).files =
        Sheet.package options (sheetsOf files options name)) ∧
      generateWith files names options =
        (match firstError files names options with
        | some error => { error := some error }
        | none => {
            files := Sheet.package options
              (Sheet.leaveOut [] (names.flatMap (sheetsOf files options))) }) ∧
      generateInTurn files names options = generateWith files names options ∧
      ∀ sheet ∈ names.flatMap (sheetsOf files options),
        (∀ element ∈ sheet.elements, element.typeOpeners = 0) →
          ∀ declared, (sheet.without declared).file.content = sheet.header ++ (sheet.methods ++
            String.join ((sheet.elements.filter (·.iterator ∉ declared)).map fun element =>
              Emitter.written sheet.level element.declaration)) := by
  refine ⟨files_generateWith_one files options, ?_,
    generateInTurn_eq_generateWith files names options,
    fun sheet _ h declared => Sheet.content_without_of_typeOpeners h⟩
  cases h : Run.clients (.ofFiles files) options names with
  | error error => rw [generateWith, h, firstError_eq_some h]
  | ok clients => rw [generateWith_of_ok h, firstError_eq_none h]

theorem generateWith_eq_composition_library :
    ∃ sheet ∈ ["library.proto"].flatMap (sheetsOf (libraryFiles "Record") libraryOptions),
      (∀ element ∈ sheet.elements, element.typeOpeners = 0) ∧
        (sheet.without ["BookIterator"]).file.content = sheet.header ++ (sheet.methods ++
          String.join ((sheet.elements.filter (·.iterator ∉ ["BookIterator"])).map fun element =>
            Emitter.written sheet.level element.declaration)) := by
  have hopeners : (["library.proto"].flatMap (sheetsOf (libraryFiles "Record") libraryOptions)).map
      (·.elements.map (·.typeOpeners)) = [[0, 0]] := by
    decide +kernel
  obtain ⟨sheet, _, hsheets, hsheet, _⟩ := List.map_eq_cons_iff.mp hopeners
  have hmem : sheet ∈ ["library.proto"].flatMap
      (sheetsOf (libraryFiles "Record") libraryOptions) := by
    rw [hsheets]
    exact List.mem_cons_self
  have hzero : ∀ element ∈ sheet.elements, element.typeOpeners = 0 := by
    intro element he
    have hall := List.mem_map_of_mem (f := Element.typeOpeners) he
    rw [hsheet] at hall
    simpa using hall
  obtain ⟨_, _, _, htext⟩ := generateWith_eq_composition (libraryFiles "Record") ["library.proto"]
    libraryOptions
  exact ⟨sheet, hmem, hzero, htext sheet hmem hzero _⟩

/-- Two files whose clients list messages of the same type, which ends in a brace. The second lists
others too. -/
def braceFiles : List File := [
  { name := "a.proto"
    package := "a"
    goPackage := some "example.com/a;apb"
    messages := [
      { name := "A\x7b" }, { name := "B" },
      { name := "Request"
        fields := [
          { name := "page_size", number := 1, kind := .int32 },
          { name := "page_token", number := 2, kind := .string }] },
      response "ListA" ".a.A\x7b", response "ListB" ".a.B"]
    services := [service "First" ["ListA"]] },
  { name := "b.proto"
    package := "b"
    goPackage := some "example.com/b;bpb"
    services := [service "Second" ["ListA", "ListB"]] }]
where
  response (name typeName : String) : Message :=
    { name
      fields := [
        { name := "items", number := 1, kind := .message, repeated := true,
          typeName := some typeName },
        { name := "next_page_token", number := 2, kind := .string }] }
  service (name : String) (methods : List String) : Service :=
    { name
      defaultHost := some "example.com"
      methods := methods.map fun name =>
        { name, inputType := ".a.Request", outputType := ".a." ++ name } }

def braceOptions : Options := { pkgPath := "example.com/apiv1", pkgName := "brace" }

def braceElement : Element :=
  ⟨"A\x7bIterator", "*apb.A\x7b", [⟨"apb", "example.com/a"⟩]⟩

def plainElement : Element :=
  ⟨"BIterator", "*apb.B", [⟨"apb", "example.com/a"⟩]⟩

/-- Two texts with the same start, of which neither the rest begins alike nor ends alike, do not
differ by a piece that one of them lacks. -/
theorem ne_append_of_getElem? {start long short : List Char} (k : Nat) (hk : 2 * k < short.length)
    (hfirst : long[k]? ≠ short[k]?) (hlast : long.reverse[k]? ≠ short.reverse[k]?) :
    ¬ ∃ before piece after, start ++ long = before ++ piece ++ after ∧
      start ++ short = before ++ after := by
  rintro ⟨before, piece, after, hlong, hshort⟩
  -- the piece begins after the first place where the texts differ, or ends before the last
  by_cases hb : start.length + k < before.length
  · apply hfirst
    have hl := congrArg (·[start.length + k]?) hlong
    have hs := congrArg (·[start.length + k]?) hshort
    simp only [List.append_assoc] at hl
    rw [List.getElem?_append_right (by omega), List.getElem?_append_left hb] at hl hs
    rw [Nat.add_sub_cancel_left] at hl hs
    rw [hl, hs]
  · apply hlast
    have hlenl := congrArg List.length hlong
    have hlens := congrArg List.length hshort
    simp only [List.length_append] at hlenl hlens
    have hl := congrArg (·.reverse[k]?) hlong
    have hs := congrArg (·.reverse[k]?) hshort
    simp only [List.reverse_append] at hl hs
    rw [List.getElem?_append_left (by rw [List.length_reverse]; omega),
      List.getElem?_append_left (by rw [List.length_reverse]; omega)] at hl hs
    rw [hl, hs]

theorem content_file (sheet : Sheet) : sheet.file.content.toList =
    (sheet.header ++ sheet.methods).toList ++
      (Sheet.declarationText sheet.level sheet.elements).toList := by
  rw [Sheet.file, ← String.toList_append, String.append_assoc]

theorem exists_sheet {elements : List Element}
    (h : (sheetsOf files options name).map (·.elements) = [elements]) :
    ∃ sheet group, sheetsOf files options name = [sheet] ∧ sheet.elements = elements ∧
      clientsOf (.ofFiles files) options name = .ok group := by
  obtain ⟨sheet, _, hsheets, hs, hnil⟩ := List.map_eq_cons_iff.mp h
  rw [List.map_eq_nil_iff] at hnil
  subst hnil
  cases hg : clientsOf (.ofFiles files) options name with
  | error fault =>
    rw [sheetsOf, hg] at hsheets
    cases hsheets
  | ok group => exact ⟨sheet, group, hsheets, hs, rfl⟩

theorem getElem?_begin (level : Nat) (c : Char) (rest : List Char) :
    (List.replicate level '\t' ++ '/' :: '/' :: ' ' :: c :: rest)[level + 3]? = some c := by
  rw [List.getElem?_append_right (by simp), List.length_replicate, Nat.add_sub_cancel_left]
  rfl

theorem getElem?_end (level deeper : Nat) (front : List Char) :
    (front ++ '\n' :: (List.replicate (level + deeper) '\t' ++
    ['\x7d', '\n', '\n'])).reverse[level + 3]? =
      if deeper = 0 then some '\n' else some '\t' := by
  simp only [List.reverse_append, List.reverse_cons, List.reverse_replicate, List.reverse_nil,
    List.nil_append, List.cons_append, List.append_assoc]
  change (List.replicate (level + deeper) '\t' ++ '\n' :: front.reverse)[level]? = _
  split
  · rename_i h
    subst h
    simp
  · rw [List.getElem?_append_left (by simp; omega), List.getElem?_replicate, if_pos (by omega)]

/-- The text of the first element's declaration is no part of the whole, and the other is not
written as it was. -/
theorem texts_differ (start : List Char) (level : Nat) : ¬ ∃ before piece after,
    start ++ (Sheet.declarationText level [braceElement, plainElement]).toList = before ++
      piece ++ after ∧
      start ++ (Sheet.declarationText level [plainElement]).toList = before ++ after := by
  have hopeners : braceElement.typeOpeners = 1 ∧ plainElement.typeOpeners = 0 := by decide
  obtain ⟨middle, hbrace⟩ := braceElement.written_declaration level
  obtain ⟨middle', hdeep⟩ := plainElement.written_declaration (level + 2)
  obtain ⟨middle'', hplain⟩ := plainElement.written_declaration level
  have hlong : (Sheet.declarationText level [braceElement, plainElement]).toList =
      (Emitter.written level braceElement.declaration).toList ++
        (Emitter.written (level + 2) plainElement.declaration).toList := by
    simp [Sheet.declarationText, hopeners]
  have hshort : (Sheet.declarationText level [plainElement]).toList =
      (Emitter.written level plainElement.declaration).toList := by
    simp [Sheet.declarationText]
  have hbegin : ∃ rest, (Sheet.declarationText level [braceElement, plainElement]).toList =
      List.replicate level '\t' ++ '/' :: '/' :: ' ' :: 'A' :: rest := by
    rw [hlong, hbrace]
    simp only [List.append_assoc, List.cons_append, List.nil_append]
    exact ⟨_, rfl⟩
  have hbegin' : ∃ rest, (Sheet.declarationText level [plainElement]).toList =
      List.replicate level '\t' ++ '/' :: '/' :: ' ' :: 'B' :: rest := by
    rw [hshort, hplain]
    simp only [List.append_assoc, List.cons_append, List.nil_append]
    exact ⟨_, rfl⟩
  refine ne_append_of_getElem? (level + 3) ?_ ?_ ?_
  · rw [hshort, hplain]
    simp only [List.length_append, List.length_cons, List.length_replicate]
    omega
  · obtain ⟨_, hbegin⟩ := hbegin
    obtain ⟨_, hbegin'⟩ := hbegin'
    rw [hbegin, hbegin', getElem?_begin, getElem?_begin]
    decide
  · rw [hlong, hshort, hdeep, hplain, ← List.append_assoc, Nat.add_assoc, getElem?_end, getElem?_end,
      hopeners.2]
    decide

/-- A declaration that is left out can change how those after it are indented, so that the file is
not the one of the run alone with a piece less. -/
theorem not_piece_left_out :
    ∃ alone whole : OutputFile,
      (generateWith braceFiles ["b.proto"] braceOptions).files[0]? = some alone ∧
      (generateWith braceFiles ["a.proto", "b.proto"] braceOptions).files[1]? = some whole ∧
      ¬ ∃ before piece after : String, alone.content = before ++ piece ++ after ∧
        whole.content = before ++ after := by
  have hone : (sheetsOf braceFiles braceOptions "a.proto").map (·.elements) = [[braceElement]] := by
    decide +kernel
  have htwo : (sheetsOf braceFiles braceOptions "b.proto").map (·.elements) =
      [[braceElement, plainElement]] := by
    decide +kernel
  obtain ⟨first, group, hfirst, hone, hgroup⟩ := exists_sheet hone
  obtain ⟨second, group', hsecond, htwo, hgroup'⟩ := exists_sheet htwo
  have hrun : Run.clients (.ofFiles braceFiles) braceOptions ["a.proto", "b.proto"] =
      .ok (group ++ (group' ++ [])) := by
    rw [clients_cons_of_ok hgroup, clients_cons_of_ok hgroup']
    rfl
  have hleft : (second.without (iterators (first.without []).elements ++ [])).elements =
      [plainElement] := by
    simp only [Sheet.without, hone, htwo]
    decide
  refine ⟨second.file, (second.without (iterators (first.without []).elements ++ [])).file, ?_, ?_,
    ?_⟩
  · rw [files_generateWith_one, hsecond]
    rfl
  · rw [generateWith_of_ok hrun, List.flatMap_cons, List.flatMap_singleton, hfirst, hsecond]
    rfl
  · rintro ⟨before, piece, after, hlong, hshort⟩
    refine texts_differ (second.header ++ second.methods).toList second.level
      ⟨before.toList, piece.toList, after.toList, ?_, ?_⟩
    · rw [← htwo, ← content_file, hlong, String.toList_append, String.toList_append]
    · rw [← hleft]
      exact (content_file _).symm.trans ((congrArg String.toList hshort).trans String.toList_append)

end ClientGen.Run
