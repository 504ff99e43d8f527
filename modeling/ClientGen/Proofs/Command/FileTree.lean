import ClientGen.Command.FileTree
import ClientGen.Proofs.Catalog.Lookup

namespace ClientGen.FileTree

open Text

variable {tree : FileTree} {path dir name : String} {content : Wire.Bytes} {here : Path}

/-- Goes along one name: two dots lead back. -/
def enter (here : Path) (name : String) : Path :=
  if name = ".." then here.dropLast else here ++ [name]

def target (path : String) : Path :=
  (names path).foldl enter []

/-- A name that leads to a place below any directory: it begins at no root and never leads back. -/
def IsInner (name : String) : Prop :=
  name.toList.head? ≠ some '/' ∧ ".." ∉ names name

instance (name : String) : Decidable (IsInner name) :=
  inferInstanceAs (Decidable (_ ∧ _))

theorem pieces_append_slash (a b : String) :
    pieces '/' (a ++ "/" ++ b) = pieces '/' a ++ pieces '/' b := by
  have hlist : (a ++ "/" ++ b).toList = a.toList ++ '/' :: b.toList := by simp
  rw [pieces, hlist, List.splitOn_append_cons_self, List.map_append]
  rfl

theorem names_append_slash (a b : String) : names (a ++ "/" ++ b) = names a ++ names b := by
  rw [names, pieces_append_slash, List.filter_append]
  rfl

/-- A name that begins at no root comes after a slash, unless it is joined to nothing. -/
theorem joinPath_cases (dir : String) (h : name.toList.head? ≠ some '/') :
    names dir = [] ∧ joinPath dir name = name ∨
      ∃ front, names dir = names front ∧ joinPath dir name = front ++ "/" ++ name := by
  have hempty : names "" = [] := by decide
  by_cases hd : dir = ""
  · subst hd
    exact .inl ⟨hempty, by simp [joinPath]⟩
  · rw [joinPath, if_neg (by simp [h, hd])]
    split
    · rename_i hlast
      obtain ⟨front, rfl⟩ : ∃ front, dir = front ++ "/" := by
        obtain ⟨chars, hc⟩ := List.getLast?_eq_some_iff.mp hlast
        refine ⟨.ofList chars, String.toList_inj.mp ?_⟩
        simp [hc]
      refine .inr ⟨front, ?_, rfl⟩
      have hnames := names_append_slash front ""
      rwa [String.append_empty, hempty, List.append_nil] at hnames
    · exact .inr ⟨dir, rfl, rfl⟩

theorem names_joinPath (dir : String) (h : name.toList.head? ≠ some '/') :
    names (joinPath dir name) = names dir ++ names name := by
  obtain ⟨hdir, hjoin⟩ | ⟨front, hdir, hjoin⟩ := joinPath_cases dir h
  · rw [hjoin, hdir, List.nil_append]
  · rw [hjoin, hdir, names_append_slash]

theorem foldl_enter_of_inner (here : Path) {steps : List String} (h : ".." ∉ steps) :
    steps.foldl enter here = here ++ steps := by
  induction steps generalizing here with
  | nil => simp
  | cons step steps ih =>
    obtain ⟨hstep, hsteps⟩ := not_or.mp (List.mem_cons.not.mp h)
    rw [List.foldl_cons, enter, if_neg (Ne.symm hstep), ih _ hsteps, List.append_assoc]
    rfl

theorem target_joinPath (dir : String) (h : IsInner name) :
    target (joinPath dir name) = target dir ++ names name := by
  rw [target, names_joinPath dir h.1, List.foldl_append, foldl_enter_of_inner _ h.2]
  rfl

theorem files_addDir (tree : FileTree) (path : Path) : (tree.addDir path).files = tree.files := by
  unfold addDir
  split <;> rfl

/-- Making directories changes no file, and leads where the names do. -/
theorem makeDirs_spec (tree : FileTree) (here : Path) (steps : List String) :
    (tree.makeDirs here steps).1.files = tree.files ∧
      ∀ there, (tree.makeDirs here steps).2 = some there → there = steps.foldl enter here := by
  fun_induction makeDirs tree here steps with
  | case1 tree here => exact ⟨rfl, fun there h => (Option.some_inj.mp h).symm⟩
  | case2 tree here steps ih => exact ih
  | case3 tree here step steps hback hblocked => exact ⟨rfl, fun there h => by cases h⟩
  | case4 tree here step steps hback hfree ih =>
    rw [files_addDir] at ih
    have henter : enter here step = here ++ [step] := if_neg hback
    rw [List.foldl_cons, henter]
    exact ih

theorem names_of_getLast? (h : (pieces '/' path).getLast? = some name) (hempty : name ≠ "")
    (hdot : name ≠ ".") : names path = (names path).dropLast ++ [name] := by
  obtain ⟨front, hfront⟩ := List.getLast?_eq_some_iff.mp h
  have hkeep : (!name.isEmpty && name != ".") = true := by simp [hempty, hdot]
  rw [names, hfront, List.filter_append, List.filter_singleton, hkeep]
  simp

/-- A file is written at the target of its path, or no file changes. -/
theorem write_spec (tree : FileTree) (path : String) (content : Wire.Bytes) :
    (tree.write path content).1.files =
      if (tree.write path content).2 then
        tree.files.filter (·.1 != target path) ++ [(target path, content)]
      else tree.files := by
  have hdirs := tree.makeDirs_spec [] (names path).dropLast
  unfold write
  split
  · rfl
  · split
    · rename_i made hmade
      rw [hmade] at hdirs
      exact hdirs.1
    · rename_i made here hmade
      rw [hmade] at hdirs
      obtain ⟨hfiles, hhere⟩ := hdirs
      split
      · exact hfiles
      · exact hfiles
      · exact hfiles
      · exact hfiles
      · rename_i name hempty hdot hback hlast
        split
        · exact hfiles
        · have hnames := names_of_getLast? hlast hempty hdot
          have htarget : target path = here ++ [name] := by
            rw [target, hnames, List.foldl_append, ← hhere here rfl]
            exact if_neg hback
          rw [if_pos rfl, htarget, put, hfiles]

theorem lookup_filter_append (files : List (Path × Wire.Bytes)) (key place : Path)
    (content : Wire.Bytes) :
    (files.filter (·.1 != key) ++ [(key, content)]).lookup place =
      if place = key then some content else files.lookup place := by
  induction files with
  | nil => exact Table.lookup_entry key place content []
  | cons file files ih =>
    obtain ⟨other, held⟩ := file
    by_cases hother : other = key
    · subst hother
      rw [List.filter_cons_of_neg (by simp), ih, Table.lookup_entry]
      split <;> rfl
    · rw [List.filter_cons_of_pos (by simpa using hother), List.cons_append, Table.lookup_entry,
        Table.lookup_entry, ih]
      by_cases hplace : place = other
      · subst hplace
        simp [hother]
      · simp [hplace]

theorem lookup_write_of_true (h : (tree.write path content).2 = true) (place : Path) :
    (tree.write path content).1.files.lookup place =
      if place = target path then some content else tree.files.lookup place := by
  rw [write_spec, if_pos h, lookup_filter_append]

/-- What is at a place after files have been written, each over what was there before. -/
def Overwritten (before after : FileTree) (written : List (Path × Wire.Bytes)) : Prop :=
  ∀ place, after.files.lookup place = (written.reverse.lookup place).or (before.files.lookup place)

theorem Overwritten.cons {before middle after : FileTree} {key : Path}
    {written : List (Path × Wire.Bytes)} (h : Overwritten middle after written)
    (hfirst : ∀ place, middle.files.lookup place =
      if place = key then some content else before.files.lookup place) :
    Overwritten before after ((key, content) :: written) := by
  intro place
  rw [h place, hfirst place, List.reverse_cons, List.lookup_append, Table.lookup_entry,
    Option.or_assoc]
  by_cases hp : place = key
  · simp [hp]
  · simp [hp]

theorem Overwritten.snoc {before middle after : FileTree} {key : Path}
    {written : List (Path × Wire.Bytes)} (h : Overwritten before middle written)
    (hlast : ∀ place, after.files.lookup place =
      if place = key then some content else middle.files.lookup place) :
    Overwritten before after (written ++ [(key, content)]) := by
  intro place
  rw [hlast, h place, List.reverse_append, List.reverse_singleton, List.singleton_append,
    Table.lookup_entry]
  split <;> rfl

end ClientGen.FileTree
