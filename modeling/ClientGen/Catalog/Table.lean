namespace ClientGen

/-- Values by name. A later value for a name replaces the earlier one. -/
structure Table (α : Type) where
  entries : List (String × α)
  nodup : (entries.map Prod.fst).Nodup

namespace Table

variable {α : Type}

def empty : Table α := ⟨[], .nil⟩

def get? (table : Table α) (name : String) : Option α :=
  table.entries.lookup name

def replace (name : String) (value : α) (entry : String × α) : String × α :=
  if entry.1 = name then (name, value) else entry

theorem fst_replace (name : String) (value : α) (entry : String × α) :
    (replace name value entry).1 = entry.1 := by
  unfold replace
  split <;> simp_all

def insert (table : Table α) (name : String) (value : α) : Table α :=
  if h : name ∈ table.entries.map Prod.fst then
    ⟨table.entries.map (replace name value), by
      simpa [Function.comp_def, fst_replace] using table.nodup⟩
  else
    ⟨table.entries ++ [(name, value)], by
      rw [List.map_append, List.nodup_append]
      exact ⟨table.nodup, by simp, by simp at h ⊢; rintro a v hv rfl; exact h v hv⟩⟩

theorem lookup_entry {κ : Type} [BEq κ] [LawfulBEq κ] [DecidableEq κ] (key name : κ) (held : α)
    (entries : List (κ × α)) :
    ((key, held) :: entries).lookup name = if name = key then some held else entries.lookup name := by
  by_cases h : name = key
  · simp [h]
  · simp [List.lookup_cons, h, beq_false_of_ne h]

theorem lookup_replace (entries : List (String × α)) (name other : String) (value : α) :
    (entries.map (replace name value)).lookup other =
      if other = name then (entries.lookup name).map fun _ => value else entries.lookup other := by
  induction entries with
  | nil => simp
  | cons entry entries ih =>
    obtain ⟨key, held⟩ := entry
    by_cases h : key = name
    · simp only [List.map_cons, replace, h, if_true, lookup_entry, ih]
      split <;> simp_all
    · simp only [List.map_cons, replace, h, if_false, lookup_entry, ih]
      grind

theorem lookup_append_new (entries : List (String × α)) (name other : String) (value : α)
    (h : name ∉ entries.map Prod.fst) :
    (entries ++ [(name, value)]).lookup other =
      if other = name then some value else entries.lookup other := by
  induction entries with
  | nil => simp [lookup_entry]
  | cons entry entries ih =>
    obtain ⟨key, held⟩ := entry
    simp only [List.map_cons, List.mem_cons, not_or] at h
    simp only [List.cons_append, lookup_entry, ih h.2]
    grind

/-- A table gives the value that was inserted last. -/
theorem get?_insert (table : Table α) (name other : String) (value : α) :
    (table.insert name value).get? other = if other = name then some value else table.get? other := by
  unfold insert get?
  split <;> rename_i h
  · rw [lookup_replace]
    split
    · obtain ⟨⟨key, held⟩, hm, rfl⟩ := List.mem_map.1 h
      cases hl : table.entries.lookup key with
      | none =>
        rw [List.lookup_eq_none_iff] at hl
        simpa using hl _ hm
      | some _ => rfl
    · rfl
  · exact lookup_append_new _ _ _ _ h

def insertAll (table : Table α) (entries : List (String × α)) : Table α :=
  entries.foldl (fun table (name, value) => table.insert name value) table

end Table

end ClientGen
