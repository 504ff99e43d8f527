import ClientGen.Proofs.Client.Faults
import ClientGen.Proofs.Client.ImportNames
import ClientGen.Proofs.Text.Trimmed

namespace ClientGen

open Schema Text

def Schema.File.hint (file : File) : String := (file.goPackage.map trimmed).getD ""

namespace ImportSpec

/-- The parts of a hint: the path before the first semicolon and the name after it, which is empty
if the hint gives none. -/
inductive HintParts : (hint path name : String) → Prop
  | named {front back : String} (h : ';' ∉ front.toList) :
      HintParts (front ++ ";" ++ back) (trimmed front) (trimmed back)
  | bare {hint : String} (h : ';' ∉ hint.toList) : HintParts hint (trimmed hint) ""

/-- A segment of a path that names a package: it is not empty, and no version such as `v1`. -/
def NamesPackage (segment : String) : Prop :=
  segment ≠ "" ∧ ¬∃ digit rest, segment.toList = 'v' :: digit :: rest ∧ isDecimalDigit digit

def IsPackageSegment (path segment : String) : Prop :=
  ∃ before after, pieces '/' path = before ++ segment :: after ∧ NamesPackage segment ∧
    ∀ other ∈ after, ¬NamesPackage other

def withoutMarks (text : String) :
    String := .ofList (text.toList.filter fun c => c != '-' && c != '.')

variable {file other : File} {hint path name segment : String} {spec : ImportSpec}

theorem exists_hintParts (hint : String) : ∃ path name, HintParts hint path name := by
  cases hcut : cut ';' hint with
  | none => exact ⟨_, _, .bare (cutChars_eq_none_iff.mp (Option.map_eq_none_iff.mp hcut))⟩
  | some parts =>
    obtain ⟨front, back⟩ := parts
    obtain ⟨hfront, rfl⟩ := cut_eq_some_iff.mp hcut
    exact ⟨_, _, .named hfront⟩

theorem isVersion_iff {segment : List Char} : isVersion segment = true ↔
    ∃ digit rest, segment = 'v' :: digit :: rest ∧ isDecimalDigit digit := by
  constructor
  · intro h
    unfold isVersion at h
    split at h
    · exact ⟨_, _, rfl, h⟩
    · cases h
  · rintro ⟨digit, rest, rfl, h⟩
    exact h

theorem namesPackage_ofList {segment : List Char} :
    NamesPackage (.ofList segment) ↔ (!segment.isEmpty && !isVersion segment) = true := by
  rw [NamesPackage, String.toList_ofList, ← isVersion_iff, Ne, String.ofList_eq_empty_iff]
  simp

theorem packageSegment?_eq_some_iff {segment : List Char} :
    packageSegment? path.toList = some segment ↔ IsPackageSegment path (.ofList segment) := by
  rw [packageSegment?, List.find?_eq_some_iff_append, IsPackageSegment, pieces]
  constructor
  · rintro ⟨hsegment, after, before, hsplit, hafter⟩
    refine ⟨before.reverse.map .ofList, after.reverse.map .ofList, ?_,
      namesPackage_ofList.mpr hsegment, ?_⟩
    · rw [List.reverse_eq_iff.mp hsplit]
      simp
    · intro other hother hnames
      obtain ⟨piece, hpiece, rfl⟩ := List.mem_map.mp hother
      have hnot := hafter piece (List.mem_reverse.mp hpiece)
      rw [namesPackage_ofList.mp hnames] at hnot
      cases hnot
  · rintro ⟨before, after, hsplit, hsegment, hafter⟩
    obtain ⟨front, back, hpieces, rfl, hback⟩ := List.map_eq_append_iff.mp hsplit
    obtain ⟨piece, rest, rfl, hpiece, rfl⟩ := List.map_eq_cons_iff.mp hback
    cases String.ofList_inj.mp hpiece
    refine ⟨namesPackage_ofList.mp hsegment, rest.reverse, front.reverse, by simp [hpieces], ?_⟩
    intro other hother
    have hnot := hafter _ (List.mem_map_of_mem (List.mem_reverse.mp hother))
    rw [Bool.not_eq_true', Bool.eq_false_iff]
    exact mt namesPackage_ofList.mpr hnot

theorem IsPackageSegment.packageSegment?_eq (h : IsPackageSegment path segment) :
    packageSegment? path.toList = some segment.toList :=
  packageSegment?_eq_some_iff.mpr (by rwa [String.ofList_toList])

theorem IsPackageSegment.eq (h : IsPackageSegment path segment) {other : String}
    (ho : IsPackageSegment path other) : segment = other := by
  have hsame := h.packageSegment?_eq.symm.trans ho.packageSegment?_eq
  exact String.toList_inj.mp (Option.some_inj.mp hsame)

/-- An import without a name binds the last segment that names a package. -/
theorem IsPackageSegment.boundName_eq (h : IsPackageSegment path segment) :
    (ofPath path).boundName = segment := by
  simp [boundName, ofPath, h.packageSegment?_eq]

theorem derivedName?_eq_some_iff : derivedName? path = some name ↔
    ∃ segment, IsPackageSegment path segment ∧ withoutMarks segment = name ∧ name ≠ "" := by
  rw [derivedName?]
  constructor
  · intro h
    obtain ⟨chars, hfilter, rfl⟩ := Option.map_eq_some_iff.mp h
    obtain ⟨hchars, hne⟩ := Option.filter_eq_some_iff.mp hfilter
    obtain ⟨segment, hsegment, rfl⟩ := Option.map_eq_some_iff.mp hchars
    refine ⟨.ofList segment, packageSegment?_eq_some_iff.mp hsegment, ?_, ?_⟩
    · rw [withoutMarks, String.toList_ofList]
    · rw [Ne, String.ofList_eq_empty_iff]
      simpa using hne
  · rintro ⟨segment, hsegment, rfl, hne⟩
    rw [hsegment.packageSegment?_eq]
    rw [withoutMarks, Ne, String.ofList_eq_empty_iff] at hne
    simp [withoutMarks, Option.filter, hne]

theorem trimmed_hint (file : File) : trimmed file.hint = file.hint := by
  cases h : file.goPackage with
  | none => simp [File.hint, h, trimmed_eq_empty_iff, IsBlankText]
  | some text => simp [File.hint, h, trimmed_trimmed]

theorem HintParts.cut_eq (h : HintParts hint path name) :
    (∃ front back, cut ';' hint = some (front, back) ∧ path = trimmed front ∧ name = trimmed back) ∨
      cut ';' hint = none ∧ path = trimmed hint ∧ name = "" := by
  cases h with
  | named hfront => exact .inl ⟨_, _, cut_eq_some_iff.mpr ⟨hfront, rfl⟩, rfl, rfl⟩
  | bare hfree => exact .inr ⟨Option.map_eq_none_iff.mpr (cutChars_eq_none_iff.mpr hfree), rfl, rfl⟩

/-- How a hint is read, once it is taken apart. -/
theorem ofFile_eq_of_parts (h : HintParts file.hint path name) : ofFile file =
    if file.hint = "" then .error (.noPackageHint file.name)
    else if path = "" then .error (.emptyImportPath file.name)
    else if name = "" then
      (derivedName? path).elim (.error (.noPackageName path file.name)) fun name => .ok ⟨name, path⟩
    else .ok ⟨name, path⟩ := by
  unfold ofFile
  dsimp only
  rw [← File.hint]
  obtain ⟨front, back, hcut, rfl, rfl⟩ | ⟨hcut, rfl, rfl⟩ := h.cut_eq
  · rw [hcut]
    simp only [String.isEmpty_iff, Bool.not_eq_true', String.isEmpty_eq_false_iff]
    cases derivedName? (trimmed front) <;> simp
  · rw [hcut, trimmed_hint]
    simp only [String.isEmpty_iff, Bool.not_eq_true']
    cases derivedName? file.hint <;> simp

theorem HintParts.hint_ne_empty (h : HintParts hint path name) (hpath : path ≠ "") : hint ≠ "" := by
  cases h with
  | named _ => simp [String.append_eq_empty_iff]
  | bare _ =>
    rintro rfl
    exact hpath (trimmed_eq_empty_iff.mpr fun c hc => by cases hc)

theorem ofFile_eq_ok_iff (h : HintParts file.hint path name) : ofFile file = .ok spec ↔
    path ≠ "" ∧ spec.path = path ∧
      (if name = "" then derivedName? path = some spec.name else spec.name = name) := by
  rw [ofFile_eq_of_parts h]
  by_cases hpath : path = ""
  · rw [if_pos hpath]
    split <;> simp [hpath]
  · rw [if_neg (h.hint_ne_empty hpath), if_neg hpath]
    obtain ⟨specName, specPath⟩ := spec
    by_cases hname : name = ""
    · rw [if_pos hname, if_pos hname]
      cases derivedName? path <;> simp [hpath, eq_comm, and_comm]
    · simp [hname, hpath, eq_comm, and_comm]

theorem exists_ofFile_eq_error_iff (h : HintParts file.hint path name) :
    (∃ fault, ofFile file = .error fault) ↔
      file.hint = "" ∨ path = "" ∨ name = "" ∧ derivedName? path = none := by
  rw [ofFile_eq_of_parts h]
  by_cases hhint : file.hint = ""
  · simp [hhint]
  by_cases hpath : path = ""
  · simp [hhint, hpath]
  by_cases hname : name = ""
  · cases derivedName? path <;> simp [hhint, hpath, hname]
  · simp [hhint, hpath, hname]

theorem withoutMarks_eq_empty_iff :
    withoutMarks segment = "" ↔ ∀ c ∈ segment.toList, c = '-' ∨ c = '.' := by
  simp [withoutMarks, or_iff_not_imp_left]

theorem derivedName?_eq_none_iff : derivedName? path = none ↔
    (¬∃ segment, IsPackageSegment path segment) ∨
      ∃ segment, IsPackageSegment path segment ∧ ∀ c ∈ segment.toList, c = '-' ∨ c = '.' := by
  constructor
  · intro h
    by_cases hsegments : ∃ segment, IsPackageSegment path segment
    · obtain ⟨segment, hsegment⟩ := hsegments
      refine .inr ⟨segment, hsegment, withoutMarks_eq_empty_iff.mp ?_⟩
      by_contra hne
      rw [derivedName?_eq_some_iff.mpr ⟨segment, hsegment, rfl, hne⟩] at h
      cases h
    · exact .inl hsegments
  · intro h
    refine Option.eq_none_iff_forall_ne_some.mpr fun name hname => ?_
    obtain ⟨segment, hsegment, rfl, hne⟩ := derivedName?_eq_some_iff.mp hname
    obtain hnone | ⟨other, hother, hmarks⟩ := h
    · exact hnone ⟨segment, hsegment⟩
    · rw [hsegment.eq hother] at hne
      exact hne (withoutMarks_eq_empty_iff.mpr hmarks)

theorem HintParts.notMem_path (h : HintParts hint path name) : ';' ∉ path.toList := by
  cases h with
  | named hfront | bare hfront =>
    rw [trimmed, String.toList_ofList]
    exact fun hc => hfront (mem_of_mem_trim hc)

theorem HintParts.mem_of_mem {c : Char} (h : HintParts hint path name)
    (hc : c ∈ path.toList ∨ c ∈ name.toList) : c ∈ hint.toList := by
  cases h with
  | named _ =>
    simp only [trimmed, String.toList_ofList] at hc
    rw [String.toList_append, String.toList_append]
    obtain hc | hc := hc
    · exact List.mem_append_left _ (List.mem_append_left _ (mem_of_mem_trim hc))
    · exact List.mem_append_right _ (mem_of_mem_trim hc)
  | bare _ =>
    obtain hc | hc := hc
    · rw [trimmed, String.toList_ofList] at hc
      exact mem_of_mem_trim hc
    · cases hc

theorem IsPackageSegment.mem_of_mem {c : Char} (h : IsPackageSegment path segment)
    (hc : c ∈ segment.toList) : c ∈ path.toList := by
  obtain ⟨before, after, hsplit, _⟩ := h
  have hsegment : segment ∈ pieces '/' path := by simp [hsplit]
  obtain ⟨piece, hpiece, rfl⟩ := List.mem_map.mp hsegment
  rw [String.toList_ofList] at hc
  exact mem_of_mem_splitOn hpiece hc

/-- A hint without white space leads to an import whose parts have none. -/
theorem isBlank_eq_false_of_ofFile (h : ofFile file = .ok spec)
    (hsolid : ∀ c ∈ file.hint.toList, isBlank c = false) :
    ∀ c ∈ (spec.path ++ ";" ++ spec.name).toList, isBlank c = false := by
  obtain ⟨path, name, hparts⟩ := exists_hintParts file.hint
  obtain ⟨_, rfl, hname⟩ := (ofFile_eq_ok_iff hparts).mp h
  have hpath : ∀ c ∈ spec.path.toList, isBlank c = false :=
    fun c hc => hsolid c (hparts.mem_of_mem (.inl hc))
  have hspecName : ∀ c ∈ spec.name.toList, isBlank c = false := by
    intro c hc
    split at hname
    · obtain ⟨segment, hsegment, hmarks, _⟩ := derivedName?_eq_some_iff.mp hname
      rw [← hmarks, withoutMarks, String.toList_ofList] at hc
      exact hpath c (hsegment.mem_of_mem (List.mem_of_mem_filter hc))
    · rw [hname] at hc
      exact hsolid c (hparts.mem_of_mem (.inr hc))
  intro c hc
  rw [String.toList_append, String.toList_append, List.mem_append, List.mem_append] at hc
  obtain (hc | hc) | hc := hc
  · exact hpath c hc
  · rw [List.mem_singleton.mp hc]
    decide
  · exact hspecName c hc

/-- What an import is written as leads back to it. -/
theorem ofFile_of_goPackage (h : ofFile file = .ok spec)
    (hsolid : ∀ c ∈ file.hint.toList, isBlank c = false)
    (hother : other.goPackage = some (spec.path ++ ";" ++ spec.name)) : ofFile other = .ok spec := by
  have hblank := isBlank_eq_false_of_ofFile h hsolid
  have hhint : other.hint = spec.path ++ ";" ++ spec.name := by
    rw [File.hint, hother]
    exact trimmed_eq_self hblank
  simp only [String.toList_append, List.mem_append] at hblank
  have hpath : trimmed spec.path = spec.path := trimmed_eq_self fun c hc => hblank c (.inl (.inl hc))
  have hname : trimmed spec.name = spec.name := trimmed_eq_self fun c hc => hblank c (.inr hc)
  obtain ⟨path, name, hparts⟩ := exists_hintParts file.hint
  obtain ⟨hne, rfl, _⟩ := (ofFile_eq_ok_iff hparts).mp h
  have hotherParts : HintParts other.hint spec.path spec.name := by
    have hnamed : HintParts _ (trimmed spec.path) (trimmed spec.name) := .named hparts.notMem_path
    rwa [hpath, hname, ← hhint] at hnamed
  refine (ofFile_eq_ok_iff hotherParts).mpr ⟨hne, rfl, ?_⟩
  rw [if_neg (name_ne_empty h)]

/-- How the package hint of a file is read. It is refused just if it is empty or begins with an
empty path, or if it gives no name and its path has none: no segment names a package, or the last
that does is hyphens and dots alone. Else the import has the path, and the name that is given or
that an import of the path without a name binds, without its hyphens and dots. -/
theorem ofFile_reads_hint (file : File) : ∃ path name, HintParts file.hint path name ∧
    ((∃ fault, ofFile file = .error fault) ↔ file.hint = "" ∨ path = "" ∨
      name = "" ∧ ((¬∃ segment, IsPackageSegment path segment) ∨
        ∃ segment, IsPackageSegment path segment ∧ ∀ c ∈ segment.toList, c = '-' ∨ c = '.')) ∧
    (∀ fault, ofFile file = .error fault → ∃ text, fault.diagnostic = .unresolvedReference text) ∧
    ∀ spec, ofFile file = .ok spec → spec.path = path ∧
      spec.name = (if name = "" then withoutMarks (ofPath path).boundName else name) ∧
      ((∀ c ∈ file.hint.toList, isBlank c = false) → ∀ other : File,
        other.goPackage = some (spec.path ++ ";" ++ spec.name) → ofFile other = .ok spec) := by
  obtain ⟨path, name, hparts⟩ := exists_hintParts file.hint
  refine ⟨path, name, hparts, ?_, fun fault hfault => ?_, fun spec hspec => ⟨?_, ?_, ?_⟩⟩
  · rw [exists_ofFile_eq_error_iff hparts, derivedName?_eq_none_iff]
  · obtain rfl | rfl | ⟨path, rfl⟩ := fault_of_ofFile hfault <;> exact ⟨_, rfl⟩
  · exact ((ofFile_eq_ok_iff hparts).mp hspec).2.1
  · obtain ⟨_, _, hname⟩ := (ofFile_eq_ok_iff hparts).mp hspec
    split at hname
    · obtain ⟨segment, hsegment, hmarks, _⟩ := derivedName?_eq_some_iff.mp hname
      rw [if_pos ‹_›, hsegment.boundName_eq, hmarks]
    · rw [if_neg ‹_›, hname]
  · exact fun hsolid other hother => ofFile_of_goPackage hspec hsolid hother

def versionedFile (hint : String) : File := { name := "library.proto", goPackage := some hint }

theorem ofFile_reads_hint_versioned :
    ofFile (versionedFile " example.com/my-library/v1beta1 ") =
        .ok ⟨"mylibrary", "example.com/my-library/v1beta1"⟩ ∧
      (∀ c ∈ (versionedFile " example.com/my-library/v1beta1 ").hint.toList, isBlank c = false) ∧
      ofFile (versionedFile "example.com/my-library/v1beta1;mylibrary") =
        .ok ⟨"mylibrary", "example.com/my-library/v1beta1"⟩ := by
  have hread : ofFile (versionedFile " example.com/my-library/v1beta1 ") =
      .ok ⟨"mylibrary", "example.com/my-library/v1beta1"⟩ := by decide +kernel
  have hall : (versionedFile " example.com/my-library/v1beta1 ").hint.toList.all (!isBlank ·) := by
    decide +kernel
  have hsolid : ∀ c ∈ (versionedFile " example.com/my-library/v1beta1 ").hint.toList,
      isBlank c = false := by simpa only [List.all_eq_true, Bool.not_eq_true'] using hall
  obtain ⟨_, _, _, _, _, hspec⟩ :=
    ofFile_reads_hint (versionedFile " example.com/my-library/v1beta1 ")
  exact ⟨hread, hsolid, (hspec _ hread).2.2 hsolid _ (by decide +kernel)⟩

end ImportSpec

end ClientGen
