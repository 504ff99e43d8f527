import ClientGen.Proofs.Options.Parsing

namespace ClientGen

namespace Options

open Text

/-- Whether a directory is left of a path when its root is taken off as whole segments, if at
all. -/
def LeavesSegments (root path dir : String) : Prop :=
  dir = path ∨ path = root ∧ dir = "" ∨
    ∃ n, path = root ++ .ofList (List.replicate (n + 1) '/') ++ dir

variable {options : Options} {root rest : String}

def IsBelow (options : Options) (root rest : String) : Prop :=
  options.moduleRoot = some root ∧ root ≠ "" ∧ options.pkgPath = root ++ rest

theorem outputDir_of_isBelow (h : options.IsBelow root rest) :
    options.outputDir = dropLeading '/' rest := by
  obtain ⟨hroot, hne, hpath⟩ := h
  rw [outputDir, hroot]
  dsimp only
  rw [if_neg (by simpa using hne), after?_eq_some_iff.mpr hpath]
  rfl

theorem outputDir_of_not_isBelow (h : ∀ root rest, ¬options.IsBelow root rest) :
    options.outputDir = options.pkgPath := by
  unfold outputDir
  split
  · rfl
  · rename_i root hroot
    split
    · rfl
    · rename_i hne
      cases hafter : after? root options.pkgPath with
      | none => rfl
      | some rest =>
        exact absurd ⟨hroot, by simpa using hne, after?_eq_some_iff.mp hafter⟩ (h root rest)

/-- Slashes are taken off what follows the root, and nothing else. -/
theorem leavesSegments_append_iff (hne : root ≠ "") :
    LeavesSegments root (root ++ rest) (dropLeading '/' rest) ↔
      rest = "" ∨ rest.toList.head? = some '/' := by
  obtain ⟨hhead, n, hrest⟩ := dropLeading_eq_iff.mp (rfl : dropLeading '/' rest = _)
  generalize dropLeading '/' rest = dir at hhead hrest ⊢
  constructor
  · rintro (hdir | ⟨hpath, _⟩ | ⟨m, hpath⟩)
    · have hlength := congrArg String.length hdir
      rw [hrest, String.length_append, String.length_append] at hlength
      have hroot : root.length = 0 := by omega
      exact absurd (String.length_eq_zero_iff.mp hroot) hne
    · exact .inl (by simpa using hpath)
    · rw [String.append_assoc, String.append_right_inj] at hpath
      exact .inr (by simp [hpath, List.replicate_succ])
  · rintro (hempty | hslash)
    · rw [hempty, eq_comm, String.append_eq_empty_iff] at hrest
      exact .inr (.inl ⟨by simp [hempty], hrest.2⟩)
    · cases n with
      | zero =>
        rw [hrest] at hslash
        exact absurd (by simpa using hslash) hhead
      | succ n => exact .inr (.inr ⟨n, by rw [hrest, String.append_assoc]⟩)

/-- The directory is left by taking off whole segments just if the root is no front of the path, or
its segments are the first of the path. Else the segment in which the root ends is cut, and the
directory begins with what is left of it. -/
theorem leavesSegments_outputDir_iff (hroot : options.moduleRoot = some root) (hne : root ≠ "") :
    (LeavesSegments root options.pkgPath options.outputDir ↔
      ∀ rest, options.pkgPath = root ++ rest → pieces '/' root <+: pieces '/' options.pkgPath) ∧
    ∀ c rest, c ≠ '/' → options.pkgPath = root ++ .ofList (c :: rest) →
      options.outputDir = .ofList (c :: rest) := by
  refine ⟨?_, fun c rest hc hpath => ?_⟩
  · by_cases h : ∃ rest, options.pkgPath = root ++ rest
    · obtain ⟨rest, hpath⟩ := h
      rw [outputDir_of_isBelow ⟨hroot, hne, hpath⟩, hpath, leavesSegments_append_iff hne,
        ← pieces_prefix_iff]
      exact ⟨fun h _ _ => h, fun h => h rest rfl⟩
    · have hdir : options.outputDir = options.pkgPath := by
        refine outputDir_of_not_isBelow fun other rest ⟨hother, _, hpath⟩ => h ⟨rest, ?_⟩
        rw [hpath, Option.some_inj.mp (hroot.symm.trans hother)]
      exact ⟨fun _ rest hpath => absurd ⟨rest, hpath⟩ h, fun _ => .inl hdir⟩
  · rw [outputDir_of_isBelow ⟨hroot, hne, hpath⟩, dropLeading_eq_iff]
    exact ⟨by simpa using hc, 0, by simp⟩

theorem leavesSegments_outputDir_module :
    parse (some "go-gapic-package=cloud.google.com/go/library/apiv1;library,module=cloud.google.com/go/") =
        .ok { moduleOptions with copyrightYear := none } ∧
      LeavesSegments "cloud.google.com/go" "cloud.google.com/go/library/apiv1"
        ({ moduleOptions with copyrightYear := none } : Options).outputDir := by
  refine ⟨by decide +kernel, ?_⟩
  have hne : "cloud.google.com/go" ≠ "" := by decide
  have hroot : ({ moduleOptions with copyrightYear := none } : Options).moduleRoot =
      some "cloud.google.com/go" := rfl
  refine (leavesSegments_outputDir_iff hroot hne).1.mpr fun rest _ => ?_
  decide

/-- A root that ends within a segment of the path cuts it. -/
theorem not_leavesSegments : ∃ options,
    parse (some "go-gapic-package=a.com/library;library,module=a.com/li") = .ok options ∧
      options.moduleRoot = some "a.com/li" ∧ options.pkgPath = "a.com/library" ∧
      options.outputDir = "brary" ∧
      ¬LeavesSegments "a.com/li" options.pkgPath options.outputDir := by
  refine ⟨{ pkgPath := "a.com/library", pkgName := "library", moduleRoot := some "a.com/li" },
    by decide +kernel, rfl, rfl, by decide, fun h => ?_⟩
  have hbrary : LeavesSegments "a.com/li" ("a.com/li" ++ "brary") (dropLeading '/' "brary") := h
  rw [leavesSegments_append_iff (by decide)] at hbrary
  exact absurd hbrary (by decide)

end Options

end ClientGen
