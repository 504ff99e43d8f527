import ClientGen.Proofs.Catalog.Lookup
import Mathlib.Data.List.Lex

namespace ClientGen

/-- Where an element stands, as the numbers that lead to it. -/
abbrev Place := List Nat

def Place.Before (p q : Place) : Prop :=
  List.Lex (· < ·) p q

theorem Place.Before.not_before {p q : Place} (h : p.Before q) : ¬q.Before p :=
  asymm_of (List.Lex (· < ·)) h

/-- The list of all that `R` puts at places, in the order of the places. -/
def Enumerates {β : Type} (R : Place → β → Prop) (entries : List β) : Prop :=
  ∃ sites : List (Place × β), sites.map Prod.snd = entries ∧
    sites.Pairwise (fun s t => s.1.Before t.1) ∧
      ∀ place entry, (place, entry) ∈ sites ↔ R place entry

namespace Enumerates

variable {α β : Type} {R S : Place → β → Prop} {entries others : List β}

theorem congr (h : Enumerates R entries) (hiff : ∀ place entry, R place entry ↔ S place entry) :
    Enumerates S entries := by
  obtain ⟨sites, he, hp, hm⟩ := h
  exact ⟨sites, he, hp, fun place entry => (hm place entry).trans (hiff place entry)⟩

theorem mem_iff (h : Enumerates R entries) {entry : β} :
    entry ∈ entries ↔ ∃ place, R place entry := by
  obtain ⟨sites, rfl, _, hm⟩ := h
  simp [hm]

theorem nil : Enumerates (fun _ (_ : β) => False) [] :=
  ⟨[], rfl, .nil, by simp⟩

theorem single (entry : β) : Enumerates (fun place e => place = [] ∧ e = entry) [entry] :=
  ⟨[([], entry)], rfl, List.pairwise_singleton _ _, by simp⟩

theorem append (h : Enumerates R entries) (ho : Enumerates S others)
    (hb : ∀ p e q o, R p e → S q o → Place.Before p q) :
    Enumerates (fun place entry => R place entry ∨ S place entry) (entries ++ others) := by
  obtain ⟨sites, rfl, hp, hm⟩ := h
  obtain ⟨rest, rfl, hq, hn⟩ := ho
  refine ⟨sites ++ rest, List.map_append, List.pairwise_append.mpr ⟨hp, hq, ?_⟩, ?_⟩
  · intro s hs t ht
    exact hb s.1 s.2 t.1 t.2 ((hm _ _).mp hs) ((hn _ _).mp ht)
  · intro place entry
    rw [List.mem_append, hm, hn]

theorem under (k : Nat) (h : Enumerates R entries) :
    Enumerates (fun place entry => ∃ rest, place = k :: rest ∧ R rest entry) entries := by
  obtain ⟨sites, rfl, hp, hm⟩ := h
  refine ⟨sites.map fun site => (k :: site.1, site.2), ?_, ?_, ?_⟩
  · rw [List.map_map]
    rfl
  · exact List.pairwise_map.mpr (hp.imp fun hb => List.Lex.cons hb)
  · intro place entry
    simp only [List.mem_map, Prod.mk.injEq, Prod.exists, hm]
    constructor
    · rintro ⟨rest, _, hr, rfl, rfl⟩
      exact ⟨rest, rfl, hr⟩
    · rintro ⟨rest, rfl, hr⟩
      exact ⟨rest, entry, hr, rfl, rfl⟩

theorem map_entries (f : β → α) (h : Enumerates R entries) :
    Enumerates (fun place image => ∃ entry, R place entry ∧ image = f entry) (entries.map f) := by
  obtain ⟨sites, rfl, hp, hm⟩ := h
  refine ⟨sites.map fun site => (site.1, f site.2), ?_, List.pairwise_map.mpr hp, ?_⟩
  · rw [List.map_map, List.map_map]
    rfl
  · intro place image
    simp only [List.mem_map, Prod.mk.injEq, Prod.exists, hm]
    constructor
    · rintro ⟨_, entry, hr, rfl, rfl⟩
      exact ⟨entry, hr, rfl⟩
    · rintro ⟨entry, hr, rfl⟩
      exact ⟨place, entry, hr, rfl, rfl⟩

theorem flatMap_from {T : α → Place → β → Prop} {f : α → List β} (k : Nat) (items : List α)
    (h : ∀ item ∈ items, Enumerates (T item) (f item)) :
    Enumerates (fun place entry => ∃ i item rest, items[i]? = some item ∧ place = (k + i) :: rest ∧
      T item rest entry) (items.flatMap f) := by
  induction items generalizing k with
  | nil => exact nil.congr (by simp)
  | cons item items ih =>
    have hfirst := (h item List.mem_cons_self).under k
    have hrest := ih (k + 1) fun other ho => h other (List.mem_cons_of_mem _ ho)
    refine (hfirst.append hrest ?_).congr ?_
    · rintro _ e _ o ⟨p, rfl, _⟩ ⟨i, _, q, _, rfl, _⟩
      exact List.Lex.rel (by omega)
    · intro place entry
      constructor
      · rintro (⟨rest, rfl, hr⟩ | ⟨i, other, rest, hi, rfl, hr⟩)
        · exact ⟨0, item, rest, rfl, rfl, hr⟩
        · exact ⟨i + 1, other, rest, hi, by rw [Nat.add_assoc, Nat.add_comm 1], hr⟩
      · rintro ⟨i, other, rest, hi, rfl, hr⟩
        cases i with
        | zero =>
          cases hi
          exact .inl ⟨rest, rfl, hr⟩
        | succ i => exact .inr ⟨i, other, rest, hi, by rw [Nat.add_assoc, Nat.add_comm 1], hr⟩

theorem flatMap {T : α → Place → β → Prop} {f : α → List β} (items : List α)
    (h : ∀ item ∈ items, Enumerates (T item) (f item)) :
    Enumerates (fun place entry => ∃ i item rest, items[i]? = some item ∧ place = i :: rest ∧
      T item rest entry) (items.flatMap f) := by
  simpa only [Nat.zero_add] using flatMap_from 0 items h

theorem map (f : α → β) (items : List α) :
    Enumerates (fun place entry => ∃ i item, items[i]? = some item ∧ place = [i] ∧ entry = f item)
      (items.map f) := by
  rw [List.map_eq_flatMap]
  refine (flatMap items fun item _ => single (f item)).congr fun place entry => ?_
  constructor
  · rintro ⟨i, item, _, hi, rfl, rfl, rfl⟩
    exact ⟨i, item, hi, rfl, rfl⟩
  · rintro ⟨i, item, hi, rfl, rfl⟩
    exact ⟨i, item, [], hi, rfl, rfl, rfl⟩

theorem filterMap (f : α → Option β) (items : List α) :
    Enumerates (fun place entry => ∃ i item, items[i]? = some item ∧ place = [i] ∧
      f item = some entry) (items.filterMap f) := by
  have htoList (item : α) :
      Enumerates (fun place entry => place = [] ∧ f item = some entry) (f item).toList := by
    cases f item with
    | none => exact nil.congr (by simp)
    | some entry => exact (single entry).congr (by simp [eq_comm])
  rw [List.filterMap_eq_flatMap_toList]
  refine (flatMap items fun item _ => htoList item).congr fun place entry => ?_
  constructor
  · rintro ⟨i, item, _, hi, rfl, rfl, he⟩
    exact ⟨i, item, hi, rfl, he⟩
  · rintro ⟨i, item, hi, rfl, he⟩
    exact ⟨i, item, [], hi, rfl, rfl, he⟩

theorem place_unique (h : Enumerates R entries) (hnodup : entries.Nodup) {p q : Place} {entry : β}
    (hp : R p entry) (hq : R q entry) : p = q := by
  obtain ⟨sites, rfl, _, hm⟩ := h
  exact congrArg Prod.fst (List.inj_on_of_nodup_map hnodup ((hm p entry).mpr hp)
    ((hm q entry).mpr hq) rfl)

/-- Of the entries for a name, looking it up from the end gives the one at the last place. -/
theorem lookup_reverse_iff {R : Place → String × β → Prop} {entries : List (String × β)}
    {name : String} {value : β} (h : Enumerates R entries) :
    entries.reverse.lookup name = some value ↔
      ∃ place, R place (name, value) ∧
        ∀ other held, R other (name, held) → other = place ∨ other.Before place := by
  obtain ⟨sites, rfl, hp, hm⟩ := h
  simp only [← hm, ← List.map_reverse]
  rw [← List.pairwise_reverse] at hp
  simp only [← @List.mem_reverse _ _ sites]
  generalize sites.reverse = sites at hp
  induction sites with
  | nil => simp
  | cons site sites ih =>
    obtain ⟨last, key, held⟩ := site
    obtain ⟨hlast, hp⟩ := List.pairwise_cons.mp hp
    rw [List.map_cons, Table.lookup_entry]
    by_cases hk : name = key
    · subst hk
      rw [if_pos rfl, Option.some.injEq]
      constructor
      · rintro rfl
        refine ⟨last, List.mem_cons_self, fun other _ ho => ?_⟩
        obtain he | ho := List.mem_cons.mp ho
        · exact .inl (congrArg Prod.fst he)
        · exact .inr (hlast _ ho)
      · rintro ⟨place, hplace, hmax⟩
        obtain he | hplace := List.mem_cons.mp hplace
        · exact (congrArg (·.2.2) he).symm
        · have hbefore := hlast _ hplace
          obtain rfl | hafter := hmax last held List.mem_cons_self
          · exact absurd hbefore hbefore.not_before
          · exact absurd hbefore hafter.not_before
    · rw [if_neg hk, ih hp]
      simp [hk]

end Enumerates

end ClientGen
