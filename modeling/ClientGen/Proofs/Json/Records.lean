import ClientGen.Json.Decoder
import ClientGen.Proofs.Catalog.Lookup
import ClientGen.Proofs.Json.Documents

namespace ClientGen.Json

/-- A member of a record: its key, the documents that give its value, and whether it may be left
out. -/
structure Member where
  key : String
  WrittenAs : Json → Prop
  Optional : Prop := False

inductive Gives : List Member → List (String × Json) → Prop
  | nil : Gives [] []
  | given {member : Member} {members : List Member} {value : Json} {given : List (String × Json)}
      (hvalue : member.WrittenAs value) (h : Gives members given) :
      Gives (member :: members) ((member.key, value) :: given)
  | omitted {member : Member} {members : List Member} {given : List (String × Json)}
      (homit : member.Optional) (h : Gives members given) : Gives (member :: members) given

/-- An object that gives the members of a record and any others, in any order. -/
inductive RecordWrittenAs (members : List Member) : Json → Prop
  | object {given others : List (String × Json)} {written : List (Option String × Json)}
      (hgiven : Gives members given) (hothers : ∀ other ∈ others, other.1 ∉ members.map Member.key)
      (horder : written.Perm ((given ++ others).map fun (key, value) => (some key, value))) :
      RecordWrittenAs members (.object written)

def Member.Found (budget : Nat) (member : Member) (slot : Option Json) : Prop :=
  match slot with
  | none => member.Optional
  | some json => member.WrittenAs json ∧ json.depth ≤ budget

def known (names : List String) (written : List (Option String × Json)) : List (String × Json) :=
  written.filterMap fun (key, value) => (key.filter names.contains).map fun name => (name, value)

variable {members : List Member} {given others : List (String × Json)}
  {written : List (Option String × Json)} {names : List String} {name : String}

theorem Gives.sublist (h : Gives members given) :
    (given.map Prod.fst).Sublist (members.map Member.key) := by
  induction h with
  | nil => exact .slnil
  | given _ _ ih => exact ih.cons_cons _
  | omitted _ _ ih => exact ih.cons _

/-- With different keys, looking a key up gives what is given for its member. -/
theorem Gives.found {budget : Nat} (h : Gives members given) (hkeys : (members.map Member.key).Nodup)
    (hdepth : ∀ entry ∈ given, entry.2.depth ≤ budget) :
    List.Forall₂ (Member.Found budget) members
      (members.map fun member => given.lookup member.key) := by
  induction h with
  | nil => exact .nil
  | @given member members value given hvalue h ih =>
    obtain ⟨hkey, hkeys⟩ := List.nodup_cons.mp hkeys
    obtain ⟨hfirst, hdepth⟩ := List.forall_mem_cons.mp hdepth
    rw [List.map_cons, List.lookup_cons_self]
    refine .cons ⟨hvalue, hfirst⟩ ?_
    have hrest : (members.map fun other => ((member.key, value) :: given).lookup other.key) =
        members.map fun other => given.lookup other.key := by
      refine List.map_congr_left fun other ho => ?_
      have hne : other.key ≠ member.key := fun he => hkey (he ▸ List.mem_map_of_mem ho)
      rw [Table.lookup_entry, if_neg hne]
    rw [hrest]
    exact ih hkeys hdepth
  | @omitted member members given homit h ih =>
    obtain ⟨hkey, hkeys⟩ := List.nodup_cons.mp hkeys
    have hnone : given.lookup member.key = none := by
      rw [List.lookup_eq_none_iff]
      rintro ⟨key, value⟩ hentry
      have hmem := h.sublist.subset (List.mem_map_of_mem hentry)
      exact bne_iff_ne.mpr fun he => hkey (he ▸ hmem)
    rw [List.map_cons, hnone]
    exact .cons homit (ih hkeys hdepth)

theorem known_cons (names : List String) (key : String) (value : Json)
    (written : List (Option String × Json)) :
    known names ((some key, value) :: written) =
      if key ∈ names then (key, value) :: known names written else known names written := by
  by_cases h : key ∈ names <;> simp [known, h]

theorem lookup_some_eq_lookup_known (h : name ∈ names) (written : List (Option String × Json)) :
    written.lookup (some name) = (known names written).lookup name := by
  induction written with
  | nil => rfl
  | cons entry written ih =>
    obtain ⟨_ | key, value⟩ := entry
    · exact ih
    · rw [known_cons, List.lookup_cons, ih]
      by_cases hkey : key ∈ names
      · rw [if_pos hkey, List.lookup_cons, Option.some_beq_some]
      · have hne : (some name == some key) = false :=
          beq_eq_false_iff_ne.mpr fun he => hkey (Option.some.inj he ▸ h)
        rw [if_neg hkey, hne]

theorem known_of_subset (h : ∀ entry ∈ given, entry.1 ∈ names) :
    known names (given.map fun (key, value) => (some key, value)) = given := by
  induction given with
  | nil => rfl
  | cons entry given ih =>
    obtain ⟨hentry, hgiven⟩ := List.forall_mem_cons.mp h
    rw [List.map_cons, known_cons, if_pos hentry, ih hgiven]

theorem known_of_disjoint (h : ∀ entry ∈ others, entry.1 ∉ names) :
    known names (others.map fun (key, value) => (some key, value)) = [] := by
  induction others with
  | nil => rfl
  | cons entry others ih =>
    obtain ⟨hentry, hothers⟩ := List.forall_mem_cons.mp h
    rw [List.map_cons, known_cons, if_neg hentry, ih hothers]

theorem known_perm (hgiven : Gives members given)
    (hothers : ∀ other ∈ others, other.1 ∉ members.map Member.key)
    (horder : written.Perm ((given ++ others).map fun (key, value) => (some key, value))) :
    (known (members.map Member.key) written).Perm given := by
  have hknown : known (members.map Member.key)
      ((given ++ others).map fun (key, value) => (some key, value)) = given := by
    have hsubset : ∀ entry ∈ given, entry.1 ∈ members.map Member.key :=
      fun entry he => hgiven.sublist.subset (List.mem_map_of_mem he)
    have hfirst := known_of_subset hsubset
    have hsecond := known_of_disjoint hothers
    rw [known] at hfirst hsecond ⊢
    rw [List.map_append, List.filterMap_append, hfirst, hsecond, List.append_nil]
  exact hknown ▸ horder.filterMap _

theorem lookup_eq_of_perm {a b : List (String × Json)} (h : a.Perm b) (hb : (b.map Prod.fst).Nodup)
    (name : String) : a.lookup name = b.lookup name := by
  have ha : (a.map Prod.fst).Nodup := (h.map Prod.fst).nodup_iff.mpr hb
  refine Option.ext fun value => ?_
  rw [Table.lookup_eq_some_iff_of_nodup ha, Table.lookup_eq_some_iff_of_nodup hb, h.mem_iff]

/-- A decoder finds every member of a record that an object writes. -/
theorem RecordWrittenAs.slots? {json : Json} {budget : Nat} (h : RecordWrittenAs members json)
    (hkeys : (members.map Member.key).Nodup) (hdepth : json.depth ≤ budget) :
    ∃ rest slots, budget = rest + 1 ∧ Decoder.slots? (members.map Member.key) json = some slots ∧
      List.Forall₂ (Member.Found rest) members slots := by
  cases h with
  | @object given others written hgiven hothers horder =>
    rw [depth] at hdepth
    obtain ⟨rest, rfl⟩ := Nat.exists_eq_add_one_of_ne_zero (show budget ≠ 0 by omega)
    have hperm := known_perm hgiven hothers horder
    have hnodup : (given.map Prod.fst).Nodup := hgiven.sublist.nodup hkeys
    have htexts : written.all (·.1.isSome) = true := by
      rw [List.all_eq_true]
      intro entry he
      obtain ⟨_, _, rfl⟩ := List.mem_map.mp (horder.mem_iff.mp he)
      rfl
    have hnames : written.filterMap (fun (key, _) => key.filter (members.map Member.key).contains) =
        (known (members.map Member.key) written).map Prod.fst := by
      rw [known, List.map_filterMap]
      simp [Function.comp_def]
    have hgivenDepth : ∀ entry ∈ given, entry.2.depth ≤ rest := by
      intro entry he
      have hmem := horder.mem_iff.mpr (List.mem_map_of_mem (List.mem_append_left others he))
      have := depth_le_of_mem_members hmem
      omega
    refine ⟨rest, members.map fun member => given.lookup member.key, rfl, ?_,
      hgiven.found hkeys hgivenDepth⟩
    rw [Decoder.slots?, htexts]
    simp only [hnames, Bool.true_and, decide_eq_true_eq]
    rw [if_pos ((hperm.map Prod.fst).nodup_iff.mpr hnodup), List.map_map]
    refine congrArg some (List.map_congr_left fun member hmember => ?_)
    rw [Function.comp_apply, lookup_some_eq_lookup_known (List.mem_map_of_mem hmember),
      lookup_eq_of_perm hperm hnodup]

end ClientGen.Json
