import ClientGen.Import.Spec

namespace ClientGen

/-- The imports of one output file, in the order in which they were first needed. -/
structure ImportSet where
  specs : List ImportSpec
  nodup : specs.Nodup

namespace ImportSet

def empty : ImportSet := ⟨[], .nil⟩

def insert (set : ImportSet) (spec : ImportSpec) : ImportSet :=
  if h : spec ∈ set.specs then set
  else ⟨set.specs ++ [spec], by
    rw [List.nodup_append]
    exact ⟨set.nodup, by simp, by simp; rintro a ha rfl; exact h ha⟩⟩

def ofList (specs : List ImportSpec) : ImportSet :=
  specs.foldl insert empty

def size (set : ImportSet) : Nat :=
  set.specs.length

def isEmpty (set : ImportSet) : Bool :=
  set.specs.isEmpty

theorem mem_insert {set : ImportSet} {spec other : ImportSpec} :
    other ∈ (set.insert spec).specs ↔ other = spec ∨ other ∈ set.specs := by
  unfold insert
  split
  · constructor
    · exact .inr
    · rintro (rfl | h) <;> assumption
  · simp [or_comm]

theorem mem_foldl_insert {specs : List ImportSpec} {set : ImportSet} {spec : ImportSpec} :
    spec ∈ (specs.foldl insert set).specs ↔ spec ∈ set.specs ∨ spec ∈ specs := by
  induction specs generalizing set with
  | nil => simp
  | cons first specs ih =>
    rw [List.foldl_cons, ih, mem_insert, List.mem_cons]
    grind

theorem mem_ofList {specs : List ImportSpec} {spec : ImportSpec} :
    spec ∈ (ofList specs).specs ↔ spec ∈ specs := by
  simp [ofList, mem_foldl_insert, empty]

/-- The imports as they are written: standard packages first. -/
def sorted (set : ImportSet) : List ImportSpec :=
  set.specs.mergeSort fun a b => (a.order b).isLE

def boundary (set : ImportSet) : Nat :=
  set.sorted.findIdx (!·.isStd)

end ImportSet

end ClientGen
