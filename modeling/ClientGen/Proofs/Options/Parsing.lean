import ClientGen.Proofs.Except
import ClientGen.Proofs.Options.Settings

namespace ClientGen

open Text

namespace Setting

/-- A setting after which no other has its key. -/
def IsLast (setting : Setting) (settings : List Setting) : Prop :=
  ∃ before after, settings = before ++ setting :: after ∧ ∀ other ∈ after, other.key ≠ setting.key

variable {α : Type} {setting : Setting} {settings : List Setting}

/-- The last of the settings of one kind. -/
theorem getLast?_filterMap_eq_some_iff {f : Setting → Option α} {x : α} {last : Setting}
    (hsome : ∀ setting, f setting = some x ↔ setting = last)
    (hnone : ∀ setting, f setting = none ↔ setting.key ≠ last.key) :
    (settings.filterMap f).getLast? = some x ↔ last.IsLast settings := by
  rw [List.getLast?_filterMap, List.findSome?_eq_some_iff]
  constructor
  · rintro ⟨after, setting, before, hreverse, hx, hafter⟩
    refine ⟨before.reverse, after.reverse, ?_, fun other ho => ?_⟩
    · rw [← (hsome setting).mp hx, ← List.reverse_inj, hreverse]
      simp
    · exact (hnone other).mp (hafter other (List.mem_reverse.mp ho))
  · rintro ⟨before, after, rfl, hafter⟩
    refine ⟨after.reverse, last, before.reverse, by simp, (hsome _).mpr rfl, fun other ho => ?_⟩
    exact (hnone other).mpr (hafter other (List.mem_reverse.mp ho))

/-- Among settings with different keys each is the last with its key. -/
theorem isLast_iff_mem (h : (settings.map key).Nodup) :
    setting.IsLast settings ↔ setting ∈ settings := by
  constructor
  · rintro ⟨before, after, rfl, _⟩
    simp
  · intro hmem
    obtain ⟨before, after, rfl⟩ := List.append_of_mem hmem
    refine ⟨before, after, rfl, fun other ho he => ?_⟩
    rw [List.map_append, List.map_cons, List.nodup_append] at h
    exact (List.nodup_cons.mp h.2.1).1 (he ▸ List.mem_map_of_mem ho)

end Setting

namespace Options

open Setting

/-- Options that hold what settings say: the last with a key decides, and without one there is no
value. -/
structure Takes (options : Options) (settings : List Setting) : Prop where
  package : (Setting.package options.pkgPath options.pkgName).IsLast settings
  moduleRoot : ∀ root, options.moduleRoot = some root ↔ (Setting.moduleRoot root).IsLast settings
  copyrightYear : ∀ year, options.copyrightYear = some year ↔
    (Setting.copyrightYear year).IsLast settings

def spoken (parameter : String) : List String :=
  (pieces ',' parameter).filter fun part => !(trimmed part).isEmpty

variable {options : Options} {settings : List Setting} {parameter : Option String} {fault : Fault}

theorem getLast?_package_eq_some_iff {path name : String} :
    (settings.filterMap package?).getLast? = some (path, name) ↔
      (Setting.package path name).IsLast settings := by
  refine getLast?_filterMap_eq_some_iff ?_ ?_
  · rintro ⟨⟩ <;> simp [package?]
  · rintro ⟨⟩ <;> simp [package?, key]

theorem getLast?_moduleRoot_eq_some_iff {root : String} :
    (settings.filterMap moduleRoot?).getLast? = some root ↔
      (Setting.moduleRoot root).IsLast settings := by
  refine getLast?_filterMap_eq_some_iff ?_ ?_
  · rintro ⟨⟩ <;> simp [moduleRoot?]
  · rintro ⟨⟩ <;> simp [moduleRoot?, key]

theorem getLast?_copyrightYear_eq_some_iff {year : Int32} :
    (settings.filterMap copyrightYear?).getLast? = some year ↔
      (Setting.copyrightYear year).IsLast settings := by
  refine getLast?_filterMap_eq_some_iff ?_ ?_
  · rintro ⟨⟩ <;> simp [copyrightYear?]
  · rintro ⟨⟩ <;> simp [copyrightYear?, key]

theorem ofSettings_eq_ok_iff : ofSettings settings = .ok options ↔ options.Takes settings := by
  constructor
  · intro h
    unfold ofSettings at h
    split at h
    · cases h
    · rename_i path name hlast
      cases h
      exact ⟨getLast?_package_eq_some_iff.mp hlast, fun _ => getLast?_moduleRoot_eq_some_iff,
        fun _ => getLast?_copyrightYear_eq_some_iff⟩
  · intro h
    have hroot : (settings.filterMap moduleRoot?).getLast? = options.moduleRoot :=
      Option.ext fun root => getLast?_moduleRoot_eq_some_iff.trans (h.moduleRoot root).symm
    have hyear : (settings.filterMap copyrightYear?).getLast? = options.copyrightYear :=
      Option.ext fun year => getLast?_copyrightYear_eq_some_iff.trans (h.copyrightYear year).symm
    rw [ofSettings, getLast?_package_eq_some_iff.mpr h.package, hroot, hyear]

theorem exists_takes_iff :
    (∃ options : Options, options.Takes settings) ↔ ∃ path name,
    Setting.package path name ∈ settings := by
  constructor
  · rintro ⟨options, h⟩
    obtain ⟨before, after, rfl, _⟩ := h.package
    exact ⟨options.pkgPath, options.pkgName, by simp⟩
  · rintro ⟨path, name, hmem⟩
    have hpackage : (path, name) ∈ settings.filterMap package? :=
      List.mem_filterMap.mpr ⟨_, hmem, rfl⟩
    cases hlast : (settings.filterMap package?).getLast? with
    | none =>
      rw [List.getLast?_eq_none_iff.mp hlast] at hpackage
      cases hpackage
    | some pair =>
      simp only [← ofSettings_eq_ok_iff, ofSettings, hlast]
      exact ⟨_, rfl⟩

theorem parts_eq (text : String) : parts text = (spoken text).map trimmed := by
  rw [parts, spoken, List.filter_map]
  rfl

theorem parse_eq_ok_iff : parse parameter = .ok options ↔
    ∃ settings, List.Forall₂ Spells (spoken (parameter.getD "")) settings ∧
      options.Takes settings := by
  rw [parse, Except.bind_eq_ok_iff]
  simp only [Except.mapM_eq_ok_iff, parts_eq, List.forall₂_map_left_iff, read_trimmed_eq_ok_iff,
    ofSettings_eq_ok_iff]

theorem exists_invalidParameter (h : parse parameter = .error fault) :
    ∃ text, fault.diagnostic = .invalidParameter text := by
  rw [parse, Except.bind_eq_error_iff] at h
  obtain hparts | ⟨settings, _, hsettings⟩ := h
  · obtain ⟨part, _, hread⟩ := Except.exists_mem_of_mapM_eq_error hparts
    exact exists_invalidParameter_of_read hread
  · unfold ofSettings at hsettings
    split at hsettings
    · rw [← Except.error.inj hsettings]
      exact ⟨_, rfl⟩
    · cases hsettings

/-- A text is accepted just if each part says a setting and one of them says the package. -/
theorem exists_parse_iff : (∃ options, parse parameter = .ok options) ↔
    (∀ part ∈ spoken (parameter.getD ""), ∃ setting, Spells part setting) ∧
      ∃ part ∈ spoken (parameter.getD ""), ∃ path name, Spells part (.package path name) := by
  simp only [parse_eq_ok_iff]
  constructor
  · rintro ⟨options, settings, hspells, htakes⟩
    refine ⟨Except.exists_forall₂_iff_forall_exists.mp ⟨settings, hspells⟩, ?_⟩
    obtain ⟨path, name, hmem⟩ := exists_takes_iff.mp ⟨options, htakes⟩
    obtain ⟨part, hpart, hpackage⟩ := Except.exists_mem_of_forall₂ hspells hmem
    exact ⟨part, hpart, path, name, hpackage⟩
  · rintro ⟨hparts, part, hpart, path, name, hpackage⟩
    obtain ⟨settings, hspells⟩ := Except.exists_forall₂_iff_forall_exists.mpr hparts
    obtain ⟨setting, hmem, hsetting⟩ := Except.exists_mem_of_forall₂ hspells.flip hpart
    obtain ⟨options, htakes⟩ := exists_takes_iff.mpr ⟨path, name, Spells.eq hsetting hpackage ▸ hmem⟩
    exact ⟨options, settings, hspells, htakes⟩

def toSettings (options : Options) : List Setting :=
  .package options.pkgPath options.pkgName ::
    ((options.moduleRoot.map .moduleRoot).toList ++ (options.copyrightYear.map .copyrightYear).toList)

theorem nodup_keys (options : Options) : (options.toSettings.map key).Nodup := by
  unfold toSettings
  cases options.moduleRoot <;> cases options.copyrightYear <;> simp [key]

theorem takes_of_perm (h : settings.Perm options.toSettings) : options.Takes settings := by
  have hlast (setting : Setting) : setting.IsLast settings ↔ setting ∈ options.toSettings := by
    rw [isLast_iff_mem ((h.map key).nodup_iff.mpr options.nodup_keys), h.mem_iff]
  refine ⟨(hlast _).mpr List.mem_cons_self, fun root => ?_, fun year => ?_⟩
  · rw [hlast]
    simp [toSettings]
  · rw [hlast]
    simp [toSettings]

/-- The pieces of a parameter text in which parts are spread out: each part with white space around
it, and blank pieces anywhere. -/
inductive Spread : List String → List String → Prop
  | nil : Spread [] []
  | blank {piece : String} {all parts : List String} (h : IsBlankText piece.toList)
      (hrest : Spread all parts) : Spread (piece :: all) parts
  | part {front part back : String} {all parts : List String} (hfront : IsBlankText front.toList)
      (hback : IsBlankText back.toList) (hrest : Spread all parts) :
      Spread ((front ++ part ++ back) :: all) (part :: parts)

theorem spells_of_spread {all : List String} (h : Spread all (settings.map render))
    (hplain : ∀ setting ∈ settings, setting.IsPlain) :
    List.Forall₂ Spells (all.filter fun piece => !(trimmed piece).isEmpty) settings := by
  generalize hparts : settings.map render = parts at h
  induction h generalizing settings with
  | nil =>
    rw [List.map_eq_nil_iff.mp hparts]
    exact .nil
  | blank hblank _ ih =>
    rw [List.filter_cons_of_neg (by simp [trimmed_eq_empty_iff.mpr hblank])]
    exact ih hplain hparts
  | part hfront hback _ ih =>
    obtain ⟨setting, settings, rfl, rfl, rfl⟩ := List.map_eq_cons_iff.mp hparts
    obtain ⟨hsetting, hsettings⟩ := List.forall_mem_cons.mp hplain
    have hspells := spells_render hsetting hfront hback
    rw [List.filter_cons_of_pos (by simp [hspells.ne_blank])]
    exact .cons hspells (ih hsettings rfl)

theorem comma_notMem_of_spread {all : List String} (h : Spread all (settings.map render))
    (hplain : ∀ setting ∈ settings, setting.IsPlain) : ∀ piece ∈ all, ',' ∉ piece.toList := by
  have hcomma {text : String} (hblank : IsBlankText text.toList) : ',' ∉ text.toList :=
    fun hmem => absurd (hblank _ hmem) (by decide)
  generalize hparts : settings.map render = parts at h
  induction h generalizing settings with
  | nil => simp
  | blank hblank _ ih => exact List.forall_mem_cons.mpr ⟨hcomma hblank, ih hplain hparts⟩
  | part hfront hback _ ih =>
    obtain ⟨setting, settings, rfl, rfl, rfl⟩ := List.map_eq_cons_iff.mp hparts
    obtain ⟨hsetting, hsettings⟩ := List.forall_mem_cons.mp hplain
    refine List.forall_mem_cons.mpr ⟨?_, ih hsettings rfl⟩
    simp [hcomma hfront, hcomma hback, comma_notMem_render hsetting]

/-- Options are read back from their settings in any order, spread out in any way. -/
theorem parse_of_spread {all : List String} (hplain : ∀ setting ∈ options.toSettings, setting.IsPlain)
    (hperm : settings.Perm options.toSettings) (hspread : Spread all (settings.map render)) :
    parse (some (",".intercalate all)) = .ok options := by
  have hplain : ∀ setting ∈ settings, setting.IsPlain :=
    fun setting hs => hplain setting (hperm.mem_iff.mp hs)
  have hne : all ≠ [] := by
    rintro rfl
    generalize hparts : settings.map render = parts at hspread
    cases hspread
    rw [List.map_eq_nil_iff.mp hparts] at hperm
    exact absurd hperm.symm.eq_nil (by simp [toSettings])
  have hpieces : pieces ',' (",".intercalate all) = all :=
    @pieces_intercalate ',' all hne (comma_notMem_of_spread hspread hplain)
  refine parse_eq_ok_iff.mpr ⟨settings, ?_, takes_of_perm hperm⟩
  rw [Option.getD_some, spoken, hpieces]
  exact spells_of_spread hspread hplain

/-- A parameter text is accepted just if each part that is not blank says a setting and one says the
package. The options are then what the last part with each key says, and every rejection blames the
parameter. So options are read back from their settings in any order, with white space and blank
parts between them. -/
theorem parse_reads_settings (parameter : Option String) :
    (∀ options, parse parameter = .ok options ↔
      ∃ settings, List.Forall₂ Spells (spoken (parameter.getD "")) settings ∧
        options.Takes settings) ∧
    ((∃ options, parse parameter = .ok options) ↔
      (∀ part ∈ spoken (parameter.getD ""), ∃ setting, Spells part setting) ∧
        ∃ part ∈ spoken (parameter.getD ""), ∃ path name, Spells part (.package path name)) ∧
    (∀ fault, parse parameter = .error fault → ∃ text, fault.diagnostic = .invalidParameter text) ∧
    ∀ options : Options, (∀ setting ∈ options.toSettings, setting.IsPlain) →
      ∀ (settings : List Setting) (all : List String), settings.Perm options.toSettings →
        Spread all (settings.map render) → parameter = some (",".intercalate all) →
          parse parameter = .ok options := by
  refine ⟨fun options => parse_eq_ok_iff, exists_parse_iff, fun fault => exists_invalidParameter, ?_⟩
  rintro options hplain settings all hperm hspread rfl
  exact parse_of_spread hplain hperm hspread

def moduleOptions : Options where
  pkgPath := "cloud.google.com/go/library/apiv1"
  pkgName := "library"
  moduleRoot := some "cloud.google.com/go"
  copyrightYear := some 2024

theorem parse_reads_settings_module :
    (∀ setting ∈ moduleOptions.toSettings, setting.IsPlain) ∧
      parse (some (",".intercalate [" module=cloud.google.com/go\t", " ", "copyright-year=2024", "",
        "go-gapic-package=cloud.google.com/go/library/apiv1;library "])) = .ok moduleOptions := by
  have hplain : ∀ setting ∈ moduleOptions.toSettings, setting.IsPlain := by decide
  have hspread : Spread [" module=cloud.google.com/go\t", " ", "copyright-year=2024", "",
      "go-gapic-package=cloud.google.com/go/library/apiv1;library "]
      ([Setting.moduleRoot "cloud.google.com/go", .copyrightYear 2024,
        .package "cloud.google.com/go/library/apiv1" "library"].map render) := by
    have hroot : " module=cloud.google.com/go\t" =
        " " ++ render (.moduleRoot "cloud.google.com/go") ++ "\t" := by decide
    have hyear : "copyright-year=2024" = "" ++ render (.copyrightYear 2024) ++ "" := by decide
    have hpackage : "go-gapic-package=cloud.google.com/go/library/apiv1;library " =
        "" ++ render (.package "cloud.google.com/go/library/apiv1" "library") ++ " " := by decide
    rw [hroot, hyear, hpackage]
    exact .part (by decide) (by decide) (.blank (by decide) (.part (by decide) (by decide)
      (.blank (by decide) (.part (by decide) (by decide) .nil))))
  exact ⟨hplain, (parse_reads_settings _).2.2.2 moduleOptions hplain _ _ (by decide) hspread rfl⟩

end Options

end ClientGen
