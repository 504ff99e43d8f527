import ClientGen.Options
import ClientGen.Proofs.Text.Numerals
import ClientGen.Proofs.Text.Trimmed

namespace ClientGen.Setting

open Text

def key : Setting → String
  | .package _ _ => "go-gapic-package"
  | .moduleRoot _ => "module"
  | .copyrightYear _ => "copyright-year"

/-- Whether a value without white space around it gives a setting: a path and a name around the
first semicolon, a root with slashes after it, or the numeral of a year. -/
def IsValue (value : String) : Setting → Prop
  | .package path name => path ≠ "" ∧ name ≠ "" ∧ ∃ before after, ';' ∉ before.toList ∧
      value = before ++ ";" ++ after ∧ trimmed before = path ∧ trimmed after = name
  | .moduleRoot root => root.toList.getLast? ≠ some '/' ∧
      ∃ n, value = root ++ .ofList (List.replicate n '/')
  | .copyrightYear year => integer? value.toList = some year.toInt

/-- What a part of a parameter text says: a key and a value around the first equals sign, with white
space around them. -/
def Spells (part : String) (setting : Setting) : Prop :=
  ∃ front back, '=' ∉ front.toList ∧ part = front ++ "=" ++ back ∧
    trimmed front = setting.key ∧ setting.IsValue (trimmed back)

variable {part text front back : String} {setting : Setting} {fault : Fault}

theorem readPackage_eq_ok_iff : readPackage text = .ok setting ↔
    setting.key = "go-gapic-package" ∧ setting.IsValue text := by
  constructor
  · intro h
    unfold readPackage at h
    split at h
    · rename_i before after hcut
      obtain ⟨hbefore, hvalue⟩ := cut_eq_some_iff.mp hcut
      split at h
      · cases h
      · rename_i hempty
        rw [Bool.or_eq_true, not_or, String.isEmpty_iff, String.isEmpty_iff] at hempty
        cases h
        exact ⟨rfl, hempty.1, hempty.2, before, after, hbefore, hvalue, rfl, rfl⟩
    · cases h
  · rintro ⟨hkey, hvalue⟩
    cases setting with
    | package path name =>
      obtain ⟨hpath, hname, before, after, hbefore, rfl, rfl, rfl⟩ := hvalue
      have hcut : cut ';' (before ++ ";" ++ after) = some (before, after) :=
        cut_eq_some_iff.mpr ⟨hbefore, rfl⟩
      rw [readPackage, hcut]
      exact if_neg (by simp [hpath, hname])
    | moduleRoot root => exact absurd hkey (by simp [key])
    | copyrightYear year => exact absurd hkey (by simp [key])

theorem readYear_eq_ok_iff : readYear text = .ok setting ↔
    setting.key = "copyright-year" ∧ setting.IsValue (trimmed text) := by
  constructor
  · intro h
    unfold readYear at h
    split at h
    · rename_i year hread
      cases h
      exact ⟨rfl, readInt32_eq_ok_iff.mp hread⟩
    · cases h
  · rintro ⟨hkey, hvalue⟩
    cases setting with
    | package path name => exact absurd hkey (by simp [key])
    | moduleRoot root => exact absurd hkey (by simp [key])
    | copyrightYear year => rw [readYear, readInt32_eq_ok_iff.mpr hvalue]

theorem moduleRoot_eq_iff : moduleRoot (dropTrailing '/' text) = setting ↔
    setting.key = "module" ∧ setting.IsValue text := by
  cases setting with
  | package path name => simp [key]
  | moduleRoot root => simp [key, IsValue, dropTrailing_eq_iff]
  | copyrightYear year => simp [key]

theorem read_of_cut (h : cut '=' part = some (front, back)) : read part = .ok setting ↔
    trimmed front = setting.key ∧ setting.IsValue (trimmed back) := by
  rw [read, h]
  dsimp only
  split
  · rename_i hkey
    rw [readPackage_eq_ok_iff, hkey, eq_comm]
  · rename_i hkey
    rw [Except.ok.injEq, moduleRoot_eq_iff, hkey, eq_comm]
  · rename_i hkey
    rw [readYear_eq_ok_iff, hkey, eq_comm]
  · rename_i hpackage hmodule hyear
    refine ⟨nofun, fun ⟨hkey, _⟩ => ?_⟩
    cases setting with
    | package path name => exact absurd hkey hpackage
    | moduleRoot root => exact absurd hkey hmodule
    | copyrightYear year => exact absurd hkey hyear

theorem spells_iff_cut : Spells part setting ↔ ∃ front back, cut '=' part = some (front, back) ∧
    trimmed front = setting.key ∧ setting.IsValue (trimmed back) := by
  simp only [Spells, cut_eq_some_iff, and_assoc]
  rfl

/-- White space around a part does not count. -/
theorem read_trimmed_eq_ok_iff : read (trimmed part) = .ok setting ↔ Spells part setting := by
  have htrimmed := @cut_trimmed '=' part (by decide)
  rw [spells_iff_cut]
  cases hcut : cut '=' part with
  | none =>
    rw [hcut] at htrimmed
    rw [read, htrimmed]
    simp
  | some sides =>
    obtain ⟨front, back⟩ := sides
    rw [hcut] at htrimmed
    rw [read_of_cut htrimmed]
    simp [trimmed, trim_trimStart, trim_trimEnd]

theorem Spells.eq {other : Setting} (h : Spells part setting) (ho : Spells part other) :
    setting = other := by
  rw [← read_trimmed_eq_ok_iff] at h ho
  exact Except.ok.inj (h.symm.trans ho)

theorem Spells.ne_blank (h : Spells part setting) : trimmed part ≠ "" := by
  obtain ⟨front, back, _, rfl, _⟩ := h
  intro hempty
  have hblank := trimmed_eq_empty_iff.mp hempty '=' (by simp)
  exact absurd hblank (by decide)

theorem fault_of_readPackage (h : readPackage text = .error fault) : fault = .badPackage text := by
  unfold readPackage at h
  split at h
  · split at h
    · exact (Except.error.inj h).symm
    · cases h
  · exact (Except.error.inj h).symm

theorem fault_of_readYear (h : readYear text = .error fault) : ∃ why, fault = .badYear text why := by
  unfold readYear at h
  split at h
  · cases h
  · exact ⟨_, (Except.error.inj h).symm⟩

theorem exists_invalidParameter_of_read (h : read part = .error fault) :
    ∃ message, fault.diagnostic = .invalidParameter message := by
  unfold read at h
  split at h
  · rw [← Except.error.inj h]
    exact ⟨_, rfl⟩
  · split at h
    · rw [fault_of_readPackage h]
      exact ⟨_, rfl⟩
    · cases h
    · obtain ⟨why, rfl⟩ := fault_of_readYear h
      exact ⟨_, rfl⟩
    · rw [← Except.error.inj h]
      exact ⟨_, rfl⟩

def value : Setting → String
  | .package path name => path ++ ";" ++ name
  | .moduleRoot root => root
  | .copyrightYear year => year.toInt.repr

def render (setting : Setting) : String := setting.key ++ "=" ++ setting.value

def IsPlainText (text : String) : Prop := trimmed text = text ∧ ',' ∉ text.toList

def IsPlain : Setting → Prop
  | .package path name =>
    IsPlainText path ∧ path ≠ "" ∧ ';' ∉ path.toList ∧ IsPlainText name ∧ name ≠ ""
  | .moduleRoot root => IsPlainText root ∧ root.toList.getLast? ≠ some '/'
  | .copyrightYear _ => True

instance (text : String) : Decidable (IsPlainText text) :=
  inferInstanceAs (Decidable (_ ∧ _))

instance : (setting : Setting) → Decidable setting.IsPlain
  | .package _ _ => inferInstanceAs (Decidable (_ ∧ _ ∧ _ ∧ _ ∧ _))
  | .moduleRoot _ => inferInstanceAs (Decidable (_ ∧ _))
  | .copyrightYear _ => inferInstanceAs (Decidable True)

theorem key_spec (setting : Setting) : trimmed setting.key = setting.key ∧
    '=' ∉ setting.key.toList ∧ ',' ∉ setting.key.toList := by
  have hkeys : ∀ key ∈ ["go-gapic-package", "module", "copyright-year"],
      trimmed key = key ∧ '=' ∉ key.toList ∧ ',' ∉ key.toList := by decide
  refine hkeys _ ?_
  cases setting <;> simp [key]

theorem isBlank_of_mem_repr {n : Int} {c : Char} (h : c ∈ n.repr.toList) : isBlank c = false := by
  obtain rfl | hdigit := eq_or_isDigit_of_mem_repr h
  · decide
  · exact isBlank_of_isDigit hdigit

theorem isValue_value (h : setting.IsPlain) : setting.IsValue (trimmed setting.value) := by
  cases setting with
  | package path name =>
    obtain ⟨⟨hpath, _⟩, hpathne, hsemicolon, ⟨hname, _⟩, hnamene⟩ := h
    refine ⟨hpathne, hnamene, _, _, fun hmem => hsemicolon ?_,
      @trimmed_singleton ';' _ _ (by decide), ?_, ?_⟩
    · rw [String.toList_ofList] at hmem
      exact mem_of_mem_trimStart hmem
    · rw [trimmed, String.toList_ofList, trim_trimStart]
      exact hpath
    · rw [trimmed, String.toList_ofList, trim_trimEnd]
      exact hname
  | moduleRoot root =>
    obtain ⟨⟨hroot, _⟩, hslash⟩ := h
    refine ⟨hslash, 0, ?_⟩
    change trimmed root = _
    rw [hroot]
    simp
  | copyrightYear year =>
    have htrimmed : trimmed year.toInt.repr = year.toInt.repr := by
      rw [trimmed, trim_eq_self fun c => isBlank_of_mem_repr, String.ofList_toList]
    change integer? (trimmed year.toInt.repr).toList = _
    rw [htrimmed]
    exact integer?_repr _

theorem spells_render (h : setting.IsPlain) (hfront : IsBlankText front.toList)
    (hback : IsBlankText back.toList) : Spells (front ++ setting.render ++ back) setting := by
  obtain ⟨hkey, hequals, _⟩ := setting.key_spec
  refine ⟨front ++ setting.key, setting.value ++ back, ?_, ?_, ?_, ?_⟩
  · rw [String.toList_append, List.mem_append, not_or]
    exact ⟨fun hmem => absurd (hfront _ hmem) (by decide), hequals⟩
  · simp [render, String.append_assoc]
  · rw [trimmed, String.toList_append, trim_append_of_blank_left hfront]
    exact hkey
  · have htrimmed : trimmed (setting.value ++ back) = trimmed setting.value := by
      rw [trimmed, String.toList_append, trim_append_of_blank_right hback, trimmed]
    rw [htrimmed]
    exact isValue_value h

theorem comma_notMem_render (h : setting.IsPlain) : ',' ∉ setting.render.toList := by
  have hvalue : ',' ∉ setting.value.toList := by
    cases setting with
    | package path name =>
      obtain ⟨hpath, _, _, hname, _⟩ := h
      simp [value, hpath.2, hname.2]
    | moduleRoot root => exact h.1.2
    | copyrightYear year =>
      intro hmem
      obtain hc | hc := eq_or_isDigit_of_mem_repr hmem <;> exact absurd hc (by decide)
  simp [render, setting.key_spec.2.2, hvalue]

end ClientGen.Setting
