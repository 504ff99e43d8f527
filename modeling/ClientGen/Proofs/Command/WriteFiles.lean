import ClientGen.Proofs.Command.Directories
import ClientGen.Proofs.Command.Ending
import Mathlib.Data.List.Induction

namespace ClientGen.Command

open Text FileTree

def IsAbove (upper lower : String) : Prop :=
  pieces '/' upper <+: pieces '/' lower ∧ pieces '/' upper ≠ pieces '/' lower

instance (upper lower : String) : Decidable (IsAbove upper lower) :=
  inferInstanceAs (Decidable (_ ∧ _))

def IsHeld (dir name : String) : Prop :=
  (∀ segment ∈ pieces '/' name, isName segment) ∧ (joinPath dir name).utf8ByteSize < pathLimit

instance (dir name : String) : Decidable (IsHeld dir name) :=
  inferInstanceAs (Decidable (_ ∧ _))

def Fit (dir : String) (files : List OutputFile) : Prop :=
  (∀ file ∈ files, IsHeld dir file.name) ∧ ∀ a ∈ files, ∀ b ∈ files, ¬IsAbove a.name b.name

structure IsEmptyDir (tree : FileTree) (dir : String) : Prop where
  leads : tree.Leads [] (names dir) (target dir)
  no_file : ∀ rest, tree.isFile (target dir ++ rest) = false
  no_dir : ∀ rest, rest ≠ [] → tree.isDir (target dir ++ rest) = false

/-- A tree after files have been written below a directory: they are there, each as it was written
last, and so are the directories above them. -/
structure Holds (before : FileTree) (dir : String) (files : List OutputFile) (tree : FileTree) :
    Prop where
  files_eq : Overwritten before tree (files.map (entry dir))
  dirs_iff : ∀ place, tree.isDir place ↔ before.isDir place ∨
    ∃ file ∈ files, OnWay (target dir) (pieces '/' file.name).dropLast place

variable {before tree after : FileTree} {dir name : String} {files written : List OutputFile}
  {file : OutputFile} {input : Wire.Bytes}

theorem not_isAbove_self (name : String) : ¬IsAbove name name :=
  fun h => h.2 rfl

theorem fit_snoc_iff : Fit dir (written ++ [file]) ↔ Fit dir written ∧ IsHeld dir file.name ∧
    ∀ earlier ∈ written, ¬IsAbove earlier.name file.name ∧ ¬IsAbove file.name earlier.name := by
  simp only [Fit, List.forall_mem_append, List.forall_mem_singleton, not_isAbove_self,
    not_false_eq_true, and_true, forall_and]
  tauto

/-- Files that do not fit have a first one that does not fit with those before it. -/
theorem exists_first_unfit (h : ¬Fit dir files) : ∃ written file rest,
    files = written ++ file :: rest ∧ Fit dir written ∧ ¬Fit dir (written ++ [file]) := by
  induction files using List.reverseRecOn with
  | nil => exact absurd ⟨fun _ h => absurd h List.not_mem_nil, fun _ h => absurd h List.not_mem_nil⟩ h
  | append_singleton files file ih =>
    by_cases hfit : Fit dir files
    · exact ⟨files, file, [], rfl, hfit, h⟩
    · obtain ⟨written, first, rest, rfl, hwritten, hfirst⟩ := ih hfit
      exact ⟨written, first, rest ++ [file], by simp, hwritten, hfirst⟩

theorem holds_nil (before : FileTree) (dir : String) : Holds before dir [] before :=
  ⟨fun _ => rfl, fun place => by simp⟩

namespace Holds

variable (h : Holds before dir written tree) (hempty : IsEmptyDir before dir)
  (hplain : ∀ file ∈ written, IsPlain file.name)

include h hplain

theorem isFile_iff (place : Path) : tree.isFile place ↔
    (∃ file ∈ written, target dir ++ pieces '/' file.name = place) ∨ before.isFile place := by
  have hplace (file : OutputFile) (hf : file ∈ written) :
      (entry dir file).1 = target dir ++ pieces '/' file.name := by
    rw [entry, target_joinPath dir (hplain file hf).isInner, (hplain file hf).names_eq]
  rw [isFile_iff_lookup, isFile_iff_lookup, h.files_eq place, Option.isSome_or, Bool.or_eq_true,
    Table.isSome_lookup_iff]
  refine or_congr_left ?_
  simp only [List.map_reverse, List.map_map, List.mem_reverse, List.mem_map, Function.comp_apply]
  refine exists_congr fun file => and_congr_right fun hf => ?_
  rw [hplace file hf]

include hempty

theorem isFile_below_iff (rest : Path) :
    tree.isFile (target dir ++ rest) ↔ ∃ file ∈ written, pieces '/' file.name = rest := by
  rw [h.isFile_iff hplain, hempty.no_file]
  simp

omit hplain in
theorem isDir_below_iff {rest : Path} (hrest : rest ≠ []) : tree.isDir (target dir ++ rest) ↔
    ∃ file ∈ written, rest <+: pieces '/' file.name ∧ rest ≠ pieces '/' file.name := by
  rw [h.dirs_iff, hempty.no_dir rest hrest]
  simp only [Bool.false_eq_true, false_or, onWay_dropLast_iff, List.append_cancel_left_eq]
  refine exists_congr fun file => and_congr_right fun _ =>
    ⟨?_, fun hfront => ⟨rest, hrest, hfront, rfl⟩⟩
  rintro ⟨front, _, hfront, rfl⟩
  exact hfront

/-- The directory itself stays as it is. -/
theorem leads : tree.Leads [] (names dir) (target dir) := by
  refine hempty.leads.mono (fun place hd => (h.dirs_iff place).mpr (.inl hd)) fun place hd hf => ?_
  rw [Bool.eq_false_iff, Ne, h.isFile_iff hplain, hf]
  refine not_or_intro ?_ Bool.false_ne_true
  rintro ⟨file, _, rfl⟩
  obtain ⟨parents, last, hpieces⟩ := exists_pieces_eq file.name
  rw [hempty.no_dir _ (by simp [hpieces])] at hd
  cases hd

/-- There is room for a file just if it fits with those that have been written. -/
theorem hasRoom_iff : tree.HasRoom dir name ↔ IsHeld dir name ∧
    ∀ earlier ∈ written, ¬IsAbove earlier.name name ∧ ¬IsAbove name earlier.name := by
  have hne (name : String) : pieces '/' name ≠ [] := by
    obtain ⟨parents, last, hpieces⟩ := exists_pieces_eq name
    simp [hpieces]
  have hway : (∀ place, OnWay (target dir) (pieces '/' name).dropLast place →
        tree.isFile place = false) ↔
      ∀ earlier ∈ written, ¬IsAbove earlier.name name := by
    simp only [onWay_dropLast_iff, Bool.eq_false_iff]
    constructor
    · intro hfree earlier he habove
      refine hfree _ ⟨_, hne earlier.name, habove, rfl⟩ ?_
      exact (h.isFile_below_iff hempty hplain _).mpr ⟨earlier, he, rfl⟩
    · rintro hfit place ⟨front, _, hfront, rfl⟩ hfile
      obtain ⟨earlier, he, rfl⟩ := (h.isFile_below_iff hempty hplain _).mp hfile
      exact hfit earlier he hfront
  have hfree : tree.isDir (target dir ++ pieces '/' name) = false ↔
      ∀ earlier ∈ written, ¬IsAbove name earlier.name := by
    rw [Bool.eq_false_iff, Ne, h.isDir_below_iff hempty (hne name)]
    simp [IsAbove]
  constructor
  · rintro ⟨hnames, hshort, hw, hf⟩
    exact ⟨⟨hnames, hshort⟩, fun earlier he => ⟨hway.mp hw earlier he, hfree.mp hf earlier he⟩⟩
  · rintro ⟨⟨hnames, hshort⟩, hfit⟩
    exact ⟨hnames, hshort, hway.mpr fun earlier he => (hfit earlier he).1,
      hfree.mpr fun earlier he => (hfit earlier he).2⟩

/-- Where there is room one more file is written. -/
theorem write (hname : IsPlain file.name) (hroom : tree.HasRoom dir file.name) :
    (tree.write (joinPath dir file.name) file.content.toUTF8.toList).2 = true ∧
      Holds before dir (written ++ [file])
        (tree.write (joinPath dir file.name) file.content.toUTF8.toList).1 := by
  obtain ⟨hwrite, hmade⟩ :=
    hroom.write_eq (h.leads hempty hplain) hname file.content.toUTF8.toList
  have htrue : (tree.write (joinPath dir file.name) file.content.toUTF8.toList).2 = true := by
    rw [hwrite]
  refine ⟨htrue, ?_, fun place => ?_⟩
  · rw [List.map_append]
    exact h.files_eq.snoc (lookup_write_of_true htrue)
  · have hback := hname.back_notMem_dropLast
    have hdirs : (tree.write (joinPath dir file.name) file.content.toUTF8.toList).1.isDir place ↔
        tree.isDir place ∨ OnWay (target dir) (pieces '/' file.name).dropLast place := by
      rw [hwrite]
      constructor
      · exact of_isDir_makeDirs hback
      · rintro (hd | hway)
        · exact isDir_makeDirs _ _ _ hd
        · exact isDir_makeDirs_of_onWay hmade hback hway
    rw [hdirs, h.dirs_iff]
    simp only [List.mem_append, List.mem_singleton, or_and_right, exists_or, exists_eq_left, or_assoc]

end Holds

/-- What a file leaves that could not be written: nothing changes but directories on the way to
it. -/
structure LeftBy (dir name : String) (before after : FileTree) : Prop where
  files_eq : after.files = before.files
  isDir_of_isDir : ∀ place, before.isDir place → after.isDir place
  of_isDir : ∀ place, after.isDir place →
    before.isDir place ∨ OnWay (target dir) (pieces '/' name).dropLast place

theorem exists_write_of_not_hasRoom (hdir : tree.Leads [] (names dir) (target dir))
    (hname : IsPlain name) (hroom : ¬tree.HasRoom dir name) (content : Wire.Bytes) :
    ∃ after, tree.write (joinPath dir name) content = (after, false) ∧
      LeftBy dir name tree after := by
  obtain ⟨after, hwrite, rfl | rfl⟩ := exists_write_eq_of_not_hasRoom hroom hdir hname content
  · exact ⟨after, hwrite, rfl, fun _ hd => hd, fun _ hd => .inl hd⟩
  · exact ⟨_, hwrite, (makeDirs_spec _ _ _).1, fun _ hd => isDir_makeDirs _ _ _ hd,
      fun _ hd => of_isDir_makeDirs hname.back_notMem_dropLast hd⟩

theorem run_writeEach_append {more : List OutputFile}
    (h : (writeEach (system input) dir files).run before = (.ok (), tree)) :
    (writeEach (system input) dir (files ++ more)).run before =
      (writeEach (system input) dir more).run tree := by
  induction files generalizing before with
  | nil =>
    cases h
    rfl
  | cons file files ih =>
    rw [List.cons_append, run_writeEach_cons]
    rw [run_writeEach_cons] at h
    split at h
    · rename_i hwritten
      rw [if_pos hwritten]
      exact ih h
    · cases h

/-- Files that fit are all written. -/
theorem run_writeEach_of_fit (hempty : IsEmptyDir before dir)
    (hplain : ∀ file ∈ files, IsPlain file.name) (hfit : Fit dir files) (input : Wire.Bytes) :
    ∃ after, (writeEach (system input) dir files).run before = (.ok (), after) ∧
      Holds before dir files after := by
  induction files using List.reverseRecOn with
  | nil => exact ⟨before, rfl, holds_nil before dir⟩
  | append_singleton files file ih =>
    obtain ⟨hfiles, hfile⟩ := List.forall_mem_append.mp hplain
    obtain ⟨hfit, hlast⟩ := fit_snoc_iff.mp hfit
    obtain ⟨middle, hrun, hmiddle⟩ := ih hfiles hfit
    obtain ⟨hwritten, hafter⟩ := hmiddle.write hempty hfiles (hfile file List.mem_cons_self)
      ((hmiddle.hasRoom_iff hempty hfiles).mpr hlast)
    refine ⟨_, ?_, hafter⟩
    rw [run_writeEach_append hrun, run_writeEach_cons, if_pos hwritten]
    rfl

/-- Files that do not fit are written up to the first that does not fit with those before it. -/
theorem run_writeEach_of_not_fit (hempty : IsEmptyDir before dir)
    (hplain : ∀ file ∈ files, IsPlain file.name) (hfit : ¬Fit dir files) (input : Wire.Bytes) :
    ∃ written file rest middle after, files = written ++ file :: rest ∧ Fit dir written ∧
      (¬IsHeld dir file.name ∨
        ∃ earlier ∈ written, IsAbove earlier.name file.name ∨ IsAbove file.name earlier.name) ∧
      (writeEach (system input) dir written).run before = (.ok (), middle) ∧
      (writeEach (system input) dir files).run before = (.error .io, after) ∧
      LeftBy dir file.name middle after := by
  obtain ⟨written, file, rest, rfl, hwritten, hfirst⟩ := exists_first_unfit hfit
  obtain ⟨hplainWritten, hname, _⟩ : (∀ file ∈ written, IsPlain file.name) ∧ IsPlain file.name ∧
      ∀ file ∈ rest, IsPlain file.name := by simpa [or_imp, forall_and] using hplain
  obtain ⟨middle, hrun, hmiddle⟩ := run_writeEach_of_fit hempty hplainWritten hwritten input
  have hroom : ¬middle.HasRoom dir file.name := by
    rw [hmiddle.hasRoom_iff hempty hplainWritten]
    exact fun hroom => hfirst (fit_snoc_iff.mpr ⟨hwritten, hroom⟩)
  obtain ⟨after, hwrite, hleft⟩ :=
    exists_write_of_not_hasRoom (hmiddle.leads hempty hplainWritten) hname
    hroom file.content.toUTF8.toList
  refine ⟨written, file, rest, middle, after, rfl, hwritten, ?_, hrun, ?_, hleft⟩
  · rw [fit_snoc_iff] at hfirst
    by_contra hnone
    simp only [not_or, not_not, not_exists, not_and] at hnone
    exact hfirst ⟨hwritten, hnone⟩
  · rw [run_writeEach_append hrun, run_writeEach_cons, hwrite]
    rfl

theorem writeFiles_of_error (system : System (StateM FileTree)) (dir : String) {output : Output}
    {error : String} (h : output.error = some error) (before : FileTree) :
    (writeFiles system dir output).run before = (.error (.general error), before) := by
  rw [writeFiles, h]
  rfl

theorem writeFiles_of_no_error (system : System (StateM FileTree)) (dir : String) {output : Output}
    (h : output.error = none) : writeFiles system dir output = writeEach system dir output.files := by
  rw [writeFiles, h]

/-- The files of a run are written below an empty directory just if the system can hold the name of
each and no name is that of a directory on the way to another. Then they are all there, each as it
comes last in the run, with the directories above them, and no other. Else the writing stops at the
first file that cannot be held or is in conflict with one before it, and leaves what the files
before it leave, but for directories on the way to it. After an error of the run nothing is
written. -/
theorem writeFiles_succeeds_iff (hempty : IsEmptyDir before dir) (output : Output)
    (hplain : ∀ file ∈ output.files, IsPlain file.name) (input : Wire.Bytes) :
    (∀ error, output.error = some error →
      (writeFiles (system input) dir output).run before = (.error (.general error), before)) ∧
    (output.error = none → ∃ result after,
      (writeFiles (system input) dir output).run before = (result, after) ∧
      (result = .ok () ↔ (∀ file ∈ output.files, IsHeld dir file.name) ∧
        ∀ a ∈ output.files, ∀ b ∈ output.files, ¬IsAbove a.name b.name) ∧
      (result = .ok () →
        (∀ rest, after.files.lookup (target dir ++ rest) = (output.files.map fun file =>
          (pieces '/' file.name, file.content.toUTF8.toList)).reverse.lookup rest) ∧
        (∀ rest, rest ≠ [] → (after.isDir (target dir ++ rest) ↔
          ∃ file ∈ output.files, rest <+: pieces '/' file.name ∧ rest ≠ pieces '/' file.name)) ∧
        ∀ place, ¬target dir <+: place → after.files.lookup place = before.files.lookup place) ∧
      (result ≠ .ok () → result = .error .io ∧ ∃ written file rest middle,
        output.files = written ++ file :: rest ∧
        (∀ file ∈ written, IsHeld dir file.name) ∧
        (∀ a ∈ written, ∀ b ∈ written, ¬IsAbove a.name b.name) ∧
        (¬IsHeld dir file.name ∨
          ∃ earlier ∈ written, IsAbove earlier.name file.name ∨ IsAbove file.name earlier.name) ∧
        (writeFiles (system input) dir { files := written }).run before = (.ok (), middle) ∧
        LeftBy dir file.name middle after)) := by
  refine ⟨fun error herror => writeFiles_of_error _ dir herror before, fun hnone => ?_⟩
  rw [writeFiles_of_no_error _ dir hnone]
  by_cases hfit : Fit dir output.files
  · obtain ⟨after, hrun, hafter⟩ := run_writeEach_of_fit hempty hplain hfit input
    refine ⟨.ok (), after, hrun, ⟨fun _ => hfit, fun _ => rfl⟩, fun _ => ⟨fun rest => ?_, ?_, ?_⟩,
      fun hfailed => absurd rfl hfailed⟩
    · have hbefore : before.files.lookup (target dir ++ rest) = none := by
        rw [← Option.not_isSome_iff_eq_none, ← isFile_iff_lookup, hempty.no_file]
        exact Bool.false_ne_true
      rw [lookup_below hafter.files_eq fun file hf => (hplain file hf).isInner, hbefore,
        Option.or_none]
      congr 2
      exact List.map_congr_left fun file hf => by rw [(hplain file hf).names_eq]
    · exact fun rest hrest => hafter.isDir_below_iff hempty hrest
    · intro place hplace
      have hnotMem : ((output.files.map (entry dir)).reverse.lookup place) = none := by
        rw [← Option.not_isSome_iff_eq_none, Table.isSome_lookup_iff]
        intro hmem
        obtain ⟨file, hf, rfl⟩ : ∃ file ∈ output.files, (entry dir file).1 = place := by
          simpa using hmem
        refine hplace ?_
        rw [entry, target_joinPath dir (hplain file hf).isInner]
        exact List.prefix_append _ _
      rw [hafter.files_eq place, hnotMem, Option.none_or]
  · obtain ⟨written, file, rest, middle, after, hsplit, hwritten, hfirst, hbefore, hrun, hleft⟩ :=
      run_writeEach_of_not_fit hempty hplain hfit input
    refine ⟨.error .io, after, hrun, ⟨fun hok => ?_, fun hok => absurd hok hfit⟩,
      fun hok => ?_, fun _ => ⟨rfl, written, file, rest, middle, hsplit, hwritten.1,
        hwritten.2, hfirst, hbefore, hleft⟩⟩
    · cases hok
    · cases hok

def outTree : FileTree where
  files := [(["go.mod"], "module depot".toUTF8.toList)]
  dirs := [["out"]]

theorem isEmptyDir_outTree : IsEmptyDir outTree "out" := by
  have hnames : names "out" = ["out"] := by decide
  have htarget : target "out" = ["out"] := by decide
  refine ⟨?_, fun rest => ?_, fun rest hrest => ?_⟩
  · rw [hnames, htarget]
    exact .enter (by decide) (by decide) (by decide) (by decide) (.nil _)
  · simp [htarget, outTree, isFile]
  · simp [htarget, outTree, isDir, hrest]

def tangled : Output where
  files := [⟨"depot/doc.go", "package"⟩, ⟨"depot/doc.go", "package depot"⟩, ⟨"stock", "text"⟩,
    ⟨"stock/doc.go", "package stock"⟩, ⟨"go.sum", ""⟩]

theorem writeFiles_succeeds_iff_tangled :
    IsEmptyDir outTree "out" ∧ (∀ file ∈ tangled.files, IsPlain file.name) ∧
      (∃ after, (writeFiles (system []) "out" { files := tangled.files.take 3 }).run outTree =
          (.ok (), after) ∧
        after.files.lookup ["out", "depot", "doc.go"] = some "package depot".toUTF8.toList) ∧
      ∃ after, (writeFiles (system []) "out" tangled).run outTree = (.error .io, after) ∧
        ∃ written file rest middle, tangled.files = written ++ file :: rest ∧
          (writeFiles (system []) "out" { files := written }).run outTree = (.ok (), middle) ∧
          LeftBy "out" file.name middle after := by
  have hplain : ∀ file ∈ tangled.files, IsPlain file.name := by decide
  have hfirst : ∀ file ∈ tangled.files.take 3, IsPlain file.name :=
    fun file hf => hplain file (List.mem_of_mem_take hf)
  refine ⟨isEmptyDir_outTree, hplain, ?_, ?_⟩
  · obtain ⟨result, after, hrun, hiff, hok, _⟩ :=
      (writeFiles_succeeds_iff isEmptyDir_outTree { files := tangled.files.take 3 } hfirst []).2 rfl
    obtain rfl := hiff.mpr (by decide)
    have htarget : target "out" = ["out"] := by decide
    have hdoc : pieces '/' "depot/doc.go" = ["depot", "doc.go"] := by decide
    have hstock : pieces '/' "stock" = ["stock"] := by decide
    have hlookup := (hok rfl).1 ["depot", "doc.go"]
    rw [htarget] at hlookup
    refine ⟨after, hrun, hlookup.trans ?_⟩
    simp [tangled, hdoc, hstock, Table.lookup_entry]
  · obtain ⟨result, after, hrun, hiff, _, hfailed⟩ :=
      (writeFiles_succeeds_iff isEmptyDir_outTree tangled hplain []).2 rfl
    have hresult : result ≠ .ok () := fun hok =>
      (hiff.mp hok).2 ⟨"stock", "text"⟩ (by decide) ⟨"stock/doc.go", "package stock"⟩
        (by decide) (by decide)
    obtain ⟨rfl, written, file, rest, middle, hsplit, _, _, _, hbefore, hleft⟩ := hfailed hresult
    exact ⟨after, hrun, written, file, rest, middle, hsplit, hbefore, hleft⟩

def severed : Output where
  files := [⟨"depot\x00.go", "package depot"⟩]

/-- Without any conflict a file can have a name that no system holds. -/
theorem severed_not_written :
    IsEmptyDir outTree "out" ∧ (∀ file ∈ severed.files, IsPlain file.name) ∧
      (∀ a ∈ severed.files, ∀ b ∈ severed.files, ¬IsAbove a.name b.name) ∧
      ((writeFiles (system []) "out" severed).run outTree).1 = .error .io := by
  have hplain : ∀ file ∈ severed.files, IsPlain file.name := by decide
  have hunfit : ¬Fit "out" severed.files := fun hfit =>
    absurd (hfit.1 _ List.mem_cons_self) (by decide)
  obtain ⟨_, _, _, _, after, _, _, _, _, hrun, _⟩ :=
    run_writeEach_of_not_fit isEmptyDir_outTree hplain hunfit []
  refine ⟨isEmptyDir_outTree, hplain, by decide, ?_⟩
  rw [writeFiles_of_no_error _ _ rfl, hrun]

end ClientGen.Command
