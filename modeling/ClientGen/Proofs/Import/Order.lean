import ClientGen.Import.Block
import Mathlib.Data.List.TakeWhile

namespace ClientGen

namespace ImportSpec

variable {s t : ImportSpec}

-- The key that puts standard packages first is compared the other way round.
instance : Std.TransCmp order :=
  inferInstanceAs (Std.TransCmp (compareLex
    (compareLex (fun s t => compareOn isStd t s) (compareOn path)) (compareOn name)))

theorem order_swap (s t : ImportSpec) : t.order s = (s.order t).swap :=
  Std.OrientedCmp.eq_swap

theorem order_eq_iff : s.order t = .eq ↔ s = t := by
  simp only [order, Ordering.then_eq_eq, Std.LawfulEqCmp.compare_eq_iff_eq]
  constructor
  · rintro ⟨⟨_, hpath⟩, hname⟩
    cases s
    cases t
    cases hpath
    cases hname
    rfl
  · rintro rfl
    exact ⟨⟨rfl, rfl⟩, rfl⟩

theorem isStd_iff : s.isStd = true ↔ '.' ∉ s.path.toList := by
  simp [isStd]

/-- No standard package comes after one that is none. -/
theorem isStd_of_order (h : s.order t = .lt) (ht : t.isStd = true) : s.isStd = true := by
  by_contra hs
  have hstd : compare t.isStd s.isStd = .gt := by
    rw [ht, Bool.eq_false_iff.mpr hs]
    rfl
  rw [order, hstd] at h
  cases h

end ImportSpec

namespace ImportSet

variable {imports others : ImportSet} {spec : ImportSpec}

theorem perm_sorted (imports : ImportSet) : imports.sorted.Perm imports.specs :=
  List.mergeSort_perm _ _

theorem pairwise_sorted (imports : ImportSet) : imports.sorted.Pairwise fun s t =>
    s.order t = .lt := by
  have htrans (s t u : ImportSpec) (hst : (s.order t).isLE = true) (htu : (t.order u).isLE = true) :
      (s.order u).isLE = true := Std.TransCmp.isLE_trans hst htu
  have htotal (s t : ImportSpec) : ((s.order t).isLE || (t.order s).isLE) = true := by
    rw [ImportSpec.order_swap s t]
    cases s.order t <;> rfl
  have hle : imports.sorted.Pairwise fun s t => (s.order t).isLE = true :=
    List.pairwise_mergeSort htrans htotal imports.specs
  have hne : imports.sorted.Pairwise (· ≠ ·) := (perm_sorted imports).nodup_iff.mpr imports.nodup
  refine hle.imp₂ (fun s t hst hd => ?_) hne
  cases horder : s.order t with
  | lt => rfl
  | eq => exact absurd (ImportSpec.order_eq_iff.mp horder) hd
  | gt =>
    rw [horder] at hst
    cases hst

theorem pairwise_lt_eq {l m : List ImportSpec} (hl : l.Pairwise fun s t => s.order t = .lt)
    (hm : m.Pairwise fun s t => s.order t = .lt) (h : ∀ spec, spec ∈ l ↔ spec ∈ m) : l = m := by
  have hnodup {l : List ImportSpec} (hl : l.Pairwise fun s t => s.order t = .lt) : l.Nodup := by
    refine hl.imp fun {s t} hst he => ?_
    rw [ImportSpec.order_eq_iff.mpr he] at hst
    cases hst
  have hperm : l.Perm m := (List.perm_ext_iff_of_nodup (hnodup hl) (hnodup hm)).mpr h
  refine hperm.eq_of_pairwise (fun s t _ _ hst hts => ?_) hl hm
  rw [ImportSpec.order_swap, hst] at hts
  cases hts

/-- The imports as they are written are the one increasing list of them. -/
theorem sorted_eq_iff {l : List ImportSpec} : imports.sorted = l ↔
    (l.Pairwise fun s t => s.order t = .lt) ∧ ∀ spec, spec ∈ l ↔ spec ∈ imports.specs := by
  constructor
  · rintro rfl
    exact ⟨pairwise_sorted imports, fun spec => (perm_sorted imports).mem_iff⟩
  · rintro ⟨hl, h⟩
    refine pairwise_lt_eq (pairwise_sorted imports) hl fun spec => ?_
    rw [(perm_sorted imports).mem_iff, h]

theorem sorted_congr (h : ∀ spec, spec ∈ imports.specs ↔ spec ∈ others.specs) :
    imports.sorted = others.sorted := by
  refine sorted_eq_iff.mpr ⟨pairwise_sorted others, fun spec => ?_⟩
  rw [(perm_sorted others).mem_iff, h]

theorem boundary_congr (h : ∀ spec, spec ∈ imports.specs ↔ spec ∈ others.specs) :
    imports.boundary = others.boundary := by
  rw [boundary, sorted_congr h]
  rfl

theorem take_boundary (imports : ImportSet) :
    imports.sorted.take imports.boundary = imports.sorted.takeWhile (·.isStd) :=
  List.takeWhile_eq_take_findIdx_not.symm

theorem drop_boundary (imports : ImportSet) :
    imports.sorted.drop imports.boundary = imports.sorted.dropWhile (·.isStd) :=
  List.dropWhile_eq_drop_findIdx_not.symm

theorem isStd_of_mem_take (h : spec ∈ imports.sorted.take imports.boundary) : spec.isStd = true := by
  rw [take_boundary] at h
  exact List.mem_takeWhile_imp (p := ImportSpec.isStd) h

theorem isStd_of_mem_drop (h : spec ∈ imports.sorted.drop imports.boundary) : spec.isStd = false := by
  rw [drop_boundary] at h
  have hhead := List.head?_dropWhile_not (·.isStd) imports.sorted
  have hpairs := imports.pairwise_sorted.sublist (List.dropWhile_suffix (·.isStd)).sublist
  cases hrest : imports.sorted.dropWhile (·.isStd) with
  | nil =>
    rw [hrest] at h
    cases h
  | cons first rest =>
    rw [hrest] at h hhead hpairs
    have hfirst : first.isStd = false := by simpa using hhead
    obtain rfl | hmem := List.mem_cons.mp h
    · exact hfirst
    · -- a standard package would make the first of the group one
      rw [Bool.eq_false_iff]
      intro hstd
      have horder := (List.pairwise_cons.mp hpairs).1 spec hmem
      rw [ImportSpec.isStd_of_order horder hstd] at hfirst
      cases hfirst

end ImportSet

end ClientGen
