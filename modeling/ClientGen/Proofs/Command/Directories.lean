import ClientGen.Proofs.Command.FileTree
import Mathlib.Data.List.Basic

namespace ClientGen.FileTree

open Text

variable {tree later : FileTree} {here there place path : Path} {steps : List String}
  {dir name : String} {content : Wire.Bytes}

theorem isDir_addDir : (tree.addDir path).isDir place ↔ tree.isDir place ∨ place = path := by
  unfold addDir
  split
  · rename_i hdir
    exact ⟨.inl, fun h => h.elim id fun hplace => hplace ▸ hdir⟩
  · simp [isDir, or_assoc]

theorem addDir_of_isDir (h : tree.isDir path) : tree.addDir path = tree :=
  if_pos h

theorem isFile_iff_lookup : tree.isFile place ↔ (tree.files.lookup place).isSome := by
  rw [Table.isSome_lookup_iff, isFile, List.any_eq_true, List.mem_map]
  simp

/-- Steps that lead along directories which are there already. -/
inductive Leads (tree : FileTree) : Path → List String → Path → Prop
  | nil (here : Path) : Leads tree here [] here
  | back {here there : Path} {steps : List String} (h : Leads tree here.dropLast steps there) :
      Leads tree here (".." :: steps) there
  | enter {here there : Path} {step : String} {steps : List String} (hback : step ≠ "..")
      (hname : isName step) (hfile : tree.isFile (here ++ [step]) = false)
      (hdir : tree.isDir (here ++ [step])) (h : Leads tree (here ++ [step]) steps there) :
      Leads tree here (step :: steps) there

/-- Directories that are there are not made again. -/
theorem Leads.makeDirs_append (h : Leads tree here steps there) (more : List String) :
    tree.makeDirs here (steps ++ more) = tree.makeDirs there more := by
  induction h with
  | nil here => rfl
  | back _ ih => exact ih
  | enter hback hname hfile hdir _ ih =>
    rw [List.cons_append, makeDirs.eq_3 _ _ _ _ hback, if_neg (by simp [hname, hfile]),
      addDir_of_isDir hdir, ih]

theorem Leads.mono (h : Leads tree here steps there)
    (hdirs : ∀ place, tree.isDir place → later.isDir place)
    (hfiles : ∀ place, tree.isDir place → tree.isFile place = false → later.isFile place = false) :
    Leads later here steps there := by
  induction h with
  | nil here => exact .nil here
  | back _ ih => exact .back ih
  | enter hback hname hfile hdir _ ih =>
    exact .enter hback hname (hfiles _ hdir hfile) (hdirs _ hdir) ih

def OnWay (here : Path) (steps : List String) (place : Path) : Prop :=
  ∃ front, front ≠ [] ∧ front <+: steps ∧ place = here ++ front

theorem onWay_cons {step : String} :
    OnWay here (step :: steps) place ↔ place = here ++ [step] ∨
      OnWay (here ++ [step]) steps place := by
  simp only [OnWay, List.prefix_cons_iff]
  constructor
  · rintro ⟨front, hne, rfl | ⟨front, rfl, hfront⟩, rfl⟩
    · exact absurd rfl hne
    · by_cases hnil : front = []
      · exact .inl (by rw [hnil])
      · exact .inr ⟨front, hnil, hfront, by simp⟩
  · rintro (rfl | ⟨front, hne, hfront, rfl⟩)
    · exact ⟨[step], by simp, .inr ⟨[], rfl, List.nil_prefix⟩, rfl⟩
    · exact ⟨step :: front, by simp, .inr ⟨front, rfl, hfront⟩, by simp⟩

theorem not_onWay_nil : ¬OnWay here [] place := by
  rintro ⟨front, hne, hfront, _⟩
  exact hne (List.prefix_nil.mp hfront)

/-- The directories on the way to a file are at the proper prefixes of its steps. -/
theorem onWay_dropLast_iff : OnWay here steps.dropLast place ↔
    ∃ front, front ≠ [] ∧ (front <+: steps ∧ front ≠ steps) ∧ place = here ++ front := by
  have hproper (front : List String) (hne : front ≠ []) :
      front <+: steps.dropLast ↔ front <+: steps ∧ front ≠ steps := by
    obtain rfl | ⟨parents, last, rfl⟩ := List.eq_nil_or_concat steps
    · simp [hne]
    · rw [List.concat_eq_append, List.dropLast_concat, List.prefix_concat_iff]
      constructor
      · intro h
        refine ⟨.inr h, fun heq => ?_⟩
        have hlength := h.length_le
        rw [heq, List.length_append, List.length_singleton] at hlength
        omega
      · exact fun h => h.1.resolve_left h.2
  constructor
  · rintro ⟨front, hne, hfront, rfl⟩
    exact ⟨front, hne, (hproper front hne).mp hfront, rfl⟩
  · rintro ⟨front, hne, hfront, rfl⟩
    exact ⟨front, hne, (hproper front hne).mpr hfront, rfl⟩

/-- Directories can be made if all names on the way are names and none is that of a file. -/
theorem makeDirs_eq_some_iff (tree : FileTree) (here : Path) (h : ".." ∉ steps) :
    (tree.makeDirs here steps).2 = some there ↔ there = here ++ steps ∧
    (∀ step ∈ steps, isName step) ∧
      ∀ place, OnWay here steps place → tree.isFile place = false := by
  fun_induction makeDirs tree here steps with
  | case1 tree here =>
    rw [List.append_nil, Option.some_inj]
    exact ⟨fun h => ⟨h.symm, fun _ hm => absurd hm List.not_mem_nil, fun _ ho =>
      absurd ho not_onWay_nil⟩, fun h => h.1.symm⟩
  | case2 tree here steps => exact absurd List.mem_cons_self h
  | case3 tree here step steps hback hblocked =>
    simp only [onWay_cons, List.forall_mem_cons]
    constructor
    · rintro ⟨⟩
    · rintro ⟨_, ⟨hname, _⟩, hfree⟩
      rw [hname, hfree _ (.inl rfl)] at hblocked
      cases hblocked
  | case4 tree here step steps hback hopen ih =>
    simp only [Bool.or_eq_true, Bool.not_eq_true', not_or, Bool.not_eq_false,
      Bool.not_eq_true] at hopen
    have hfiles (place : Path) : (tree.addDir (here ++ [step])).isFile place = tree.isFile place := by
      rw [isFile, files_addDir]
      rfl
    rw [ih fun hm => h (List.mem_cons_of_mem _ hm)]
    simp only [onWay_cons, List.forall_mem_cons, hfiles, List.append_assoc,
      List.singleton_append, hopen.1, true_and, or_imp, forall_and, forall_eq, hopen.2]

theorem isDir_makeDirs (tree : FileTree) (here : Path) (steps : List String) (h : tree.isDir place) :
    (tree.makeDirs here steps).1.isDir place := by
  fun_induction makeDirs tree here steps with
  | case1 | case3 => exact h
  | case2 tree here steps ih => exact ih h
  | case4 tree here step steps hback hopen ih => exact ih (isDir_addDir.mpr (.inl h))

theorem of_isDir_makeDirs (hback : ".." ∉ steps) (h : (tree.makeDirs here steps).1.isDir place) :
    tree.isDir place ∨ OnWay here steps place := by
  fun_induction makeDirs tree here steps with
  | case1 | case3 => exact .inl h
  | case2 tree here steps => exact absurd List.mem_cons_self hback
  | case4 tree here step steps _ hopen ih =>
    rw [onWay_cons, ← or_assoc, ← isDir_addDir]
    exact ih (fun hm => hback (List.mem_cons_of_mem _ hm)) h

theorem isDir_makeDirs_of_onWay (hsome : (tree.makeDirs here steps).2 = some there)
    (hback : ".." ∉ steps)
    (h : OnWay here steps place) : (tree.makeDirs here steps).1.isDir place := by
  fun_induction makeDirs tree here steps with
  | case1 => exact absurd h not_onWay_nil
  | case2 tree here steps => exact absurd List.mem_cons_self hback
  | case3 => cases hsome
  | case4 tree here step steps _ hopen ih =>
    obtain rfl | h := onWay_cons.mp h
    · exact isDir_makeDirs _ _ _ (isDir_addDir.mpr (.inr rfl))
    · exact ih hsome (fun hm => hback (List.mem_cons_of_mem _ hm)) h

/-- A relative name, each segment of which leads one step down. -/
def IsPlain (name : String) : Prop :=
  ∀ segment ∈ pieces '/' name, segment ≠ "" ∧ segment ≠ "." ∧ segment ≠ ".."

instance (name : String) : Decidable (IsPlain name) :=
  inferInstanceAs (Decidable (∀ segment ∈ pieces '/' name, _))

theorem IsPlain.names_eq (h : IsPlain name) : names name = pieces '/' name := by
  refine List.filter_eq_self.mpr fun segment hs => ?_
  obtain ⟨hempty, hdot, _⟩ := h segment hs
  simp [hempty, hdot]

theorem IsPlain.back_notMem (h : IsPlain name) : ".." ∉ pieces '/' name :=
  fun hm => (h _ hm).2.2 rfl

theorem IsPlain.back_notMem_dropLast (h : IsPlain name) : ".." ∉ (pieces '/' name).dropLast :=
  fun hm => h.back_notMem (List.dropLast_subset _ hm)

theorem IsPlain.isInner (h : IsPlain name) : IsInner name := by
  refine ⟨fun hhead => ?_, fun hm => h.back_notMem (h.names_eq ▸ hm)⟩
  -- a slash in front has an empty segment before it
  obtain ⟨rest, hrest⟩ := List.head?_eq_some_iff.mp hhead
  have hname : name = "" ++ "/" ++ .ofList rest := by
    rw [← String.toList_inj, hrest]
    simp
  refine (h "" ?_).1 rfl
  rw [hname, pieces_append_slash]
  exact List.mem_append_left _ List.mem_cons_self

theorem exists_pieces_eq (name : String) : ∃ parents last, pieces '/' name = parents ++ [last] := by
  have hne : pieces '/' name ≠ [] := by
    rw [pieces, Ne, List.map_eq_nil_iff]
    exact List.splitOn_ne_nil _ _
  exact ⟨_, _, (List.dropLast_append_getLast hne).symm⟩

theorem getLast?_pieces_joinPath (dir : String) (h : name.toList.head? ≠ some '/') :
    (pieces '/' (joinPath dir name)).getLast? = (pieces '/' name).getLast? := by
  obtain ⟨_, hjoin⟩ | ⟨front, _, hjoin⟩ := joinPath_cases dir h
  · rw [hjoin]
  · obtain ⟨parents, last, hpieces⟩ := exists_pieces_eq name
    rw [hjoin, pieces_append_slash, hpieces, ← List.append_assoc, List.getLast?_concat,
      List.getLast?_concat]

/-- From a directory that is there, the segments of a name lead to the directory of its file. -/
theorem write_joinPath {parents : List String} {last : String}
    (hdir : tree.Leads [] (names dir) (target dir)) (hname : IsPlain name)
    (hpieces : pieces '/' name = parents ++ [last]) (content : Wire.Bytes) :
    tree.write (joinPath dir name) content =
      if pathLimit ≤ (joinPath dir name).utf8ByteSize then (tree, false)
      else match tree.makeDirs (target dir) parents with
        | (made, none) => (made, false)
        | (made, some here) =>
          if !isName last || made.isDir (here ++ [last]) then (made, false)
          else (made.put (here ++ [last]) content, true) := by
  have hsteps : (names (joinPath dir name)).dropLast = names dir ++ parents := by
    rw [names_joinPath dir hname.isInner.1, hname.names_eq, hpieces, ← List.append_assoc,
      List.dropLast_concat]
  have hlast : (pieces '/' (joinPath dir name)).getLast? = some last := by
    rw [getLast?_pieces_joinPath dir hname.isInner.1, hpieces, List.getLast?_concat]
  obtain ⟨hempty, hdot, hback⟩ := hname last (by simp [hpieces])
  rw [write, hsteps, hdir.makeDirs_append, hlast]
  split
  · rfl
  · cases tree.makeDirs (target dir) parents with
    | mk made there =>
      cases there with
      | none => rfl
      -- the last segment is none of those at which no file can be
      | some there => simp

/-- What it takes to write the file of a name: names that the system holds, no file on the way, and
no directory in its place. -/
structure HasRoom (tree : FileTree) (dir name : String) : Prop where
  names : ∀ segment ∈ pieces '/' name, isName segment
  short : (joinPath dir name).utf8ByteSize < pathLimit
  way : ∀ place, OnWay (target dir) (pieces '/' name).dropLast place → tree.isFile place = false
  free : tree.isDir (target dir ++ pieces '/' name) = false

theorem not_onWay_dropLast {front : List String} {last : String} :
    ¬OnWay here front (here ++ (front ++ [last])) := by
  rintro ⟨other, _, hother, heq⟩
  rw [← List.append_cancel_left heq] at hother
  have hlength := hother.length_le
  rw [List.length_append, List.length_singleton] at hlength
  omega

/-- Where there is room the file is put, below the directories that lead to it. -/
theorem HasRoom.write_eq (h : HasRoom tree dir name)
    (hdir : tree.Leads [] (FileTree.names dir) (target dir))
    (hname : IsPlain name) (content : Wire.Bytes) :
    tree.write (joinPath dir name) content =
        ((tree.makeDirs (target dir) (pieces '/' name).dropLast).1.put
          (target dir ++ pieces '/' name) content, true) ∧
      (tree.makeDirs (target dir) (pieces '/' name).dropLast).2 =
        some (target dir ++ (pieces '/' name).dropLast) := by
  obtain ⟨parents, last, hpieces⟩ := exists_pieces_eq name
  obtain ⟨hnames, hshort, hway, hfree⟩ := h
  have hback : ".." ∉ parents := fun hm => hname.back_notMem (by simp [hpieces, hm])
  rw [write_joinPath hdir hname hpieces]
  rw [hpieces] at hnames hway hfree ⊢
  rw [List.dropLast_concat] at hway ⊢
  obtain ⟨hparents, hlast⟩ : (∀ segment ∈ parents, isName segment) ∧ isName last := by
    simpa [or_imp, forall_and] using hnames
  have hmade : (tree.makeDirs (target dir) parents).2 = some (target dir ++ parents) :=
    (makeDirs_eq_some_iff _ _ hback).mpr ⟨rfl, hparents, hway⟩
  have hdirs := @of_isDir_makeDirs tree (target dir) (target dir ++ (parents ++ [last])) parents hback
  generalize tree.makeDirs (target dir) parents = made at hmade hdirs
  obtain ⟨made, there⟩ := made
  cases hmade
  have hplace : made.isDir (target dir ++ (parents ++ [last])) = false := by
    rw [Bool.eq_false_iff]
    intro hm
    rcases hdirs hm with hd | hd
    · rw [hfree] at hd
      cases hd
    · exact not_onWay_dropLast hd
  rw [if_neg (Nat.not_le.mpr hshort)]
  simp [hlast, hplace]

/-- Where there is no room no file is put, though directories may be made on the way. -/
theorem exists_write_eq_of_not_hasRoom (h : ¬HasRoom tree dir name)
    (hdir : tree.Leads [] (names dir) (target dir)) (hname : IsPlain name) (content : Wire.Bytes) :
    ∃ left, tree.write (joinPath dir name) content = (left, false) ∧
      (left = tree ∨ left = (tree.makeDirs (target dir) (pieces '/' name).dropLast).1) := by
  obtain ⟨parents, last, hpieces⟩ := exists_pieces_eq name
  have hback : ".." ∉ parents := fun hm => hname.back_notMem (by simp [hpieces, hm])
  rw [write_joinPath hdir hname hpieces]
  have hparents : (pieces '/' name).dropLast = parents := by rw [hpieces, List.dropLast_concat]
  rw [hparents]
  split
  · exact ⟨tree, rfl, .inl rfl⟩
  · rename_i hshort
    cases hmade : tree.makeDirs (target dir) parents with
    | mk made there =>
      cases there with
      | none => exact ⟨made, rfl, .inr rfl⟩
      | some there =>
        dsimp only
        refine ⟨made, if_pos ?_, .inr rfl⟩
        by_contra hopen
        obtain ⟨hthere, hnames, hway⟩ := (makeDirs_eq_some_iff tree (target dir) hback).mp
          (congrArg Prod.snd hmade)
        obtain ⟨hlast, hplace⟩ : isName last ∧ made.isDir (there ++ [last]) = false := by
          simpa using hopen
        refine h ⟨?_, Nat.not_le.mp hshort, hparents ▸ hway, ?_⟩
        · simpa [hpieces, or_imp, forall_and, hlast] using hnames
        · rw [Bool.eq_false_iff]
          intro hd
          have hd := isDir_makeDirs tree (target dir) parents hd
          rw [hmade, hpieces, ← List.append_assoc, ← hthere, hplace] at hd
          cases hd

end ClientGen.FileTree
