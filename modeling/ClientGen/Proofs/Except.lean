import Mathlib.Data.List.Forall2

namespace ClientGen.Except

variable {α β ε ε' : Type} {x : Except ε α} {f : α → Except ε β}

theorem bind_eq_ok_iff {b : β} : x >>= f = .ok b ↔ ∃ a, x = .ok a ∧ f a = .ok b := by
  cases x with
  | error e => simp [bind, Except.bind]
  | ok a => simp [bind, Except.bind]

theorem bind_eq_error_iff {e : ε} :
    x >>= f = .error e ↔ x = .error e ∨ ∃ a, x = .ok a ∧ f a = .error e := by
  cases x with
  | error e => simp [bind, Except.bind]
  | ok a => simp [bind, Except.bind]

theorem map_eq_ok_iff {g : α → β} {b : β} : g <$> x = .ok b ↔ ∃ a, x = .ok a ∧ g a = b := by
  cases x with
  | error e => simp [Functor.map, Except.map]
  | ok a => simp [Functor.map, Except.map]

theorem map_eq_error_iff {g : α → β} {e : ε} : g <$> x = .error e ↔ x = .error e := by
  cases x with
  | error e => simp [Functor.map, Except.map]
  | ok a => simp [Functor.map, Except.map]

theorem mapError_eq_ok_iff {g : ε → ε'} {a : α} : x.mapError g = .ok a ↔ x = .ok a := by
  cases x <;> simp [Except.mapError]

theorem mapError_eq_error_iff {g : ε → ε'} {e : ε'} :
    x.mapError g = .error e ↔ ∃ e', x = .error e' ∧ e = g e' := by
  cases x <;> simp [Except.mapError, eq_comm]

theorem toOption_eq_some_iff {a : α} : x.toOption = some a ↔ x = .ok a := by
  cases x <;> simp [Except.toOption]

theorem mapM_cons_of_ok {a : α} {as : List α} {b : β} (h : f a = .ok b) :
    (a :: as).mapM f = (b :: ·) <$> as.mapM f := by
  rw [List.mapM_cons, h]
  rfl

theorem mapM_cons_of_error {a : α} {as : List α} {e : ε} (h : f a = .error e) :
    (a :: as).mapM f = .error e := by
  rw [List.mapM_cons, h]
  rfl

theorem mapM_eq_ok_iff {as : List α} {bs : List β} :
    as.mapM f = .ok bs ↔ List.Forall₂ (fun a b => f a = .ok b) as bs := by
  induction as generalizing bs with
  | nil =>
    rw [List.mapM_nil, List.forall₂_nil_left_iff]
    simp [pure, Except.pure, eq_comm]
  | cons a as ih =>
    rw [List.forall₂_cons_left_iff]
    cases hf : f a with
    | error e => simp [mapM_cons_of_error hf]
    | ok b =>
      rw [mapM_cons_of_ok hf, map_eq_ok_iff]
      simp only [ih]
      constructor
      · rintro ⟨bs, hbs, rfl⟩
        exact ⟨b, bs, rfl, hbs, rfl⟩
      · rintro ⟨_, bs, hb, hbs, rfl⟩
        cases hb
        exact ⟨bs, hbs, rfl⟩

theorem exists_mem_of_mapM_eq_error {as : List α} {e : ε} (h : as.mapM f = .error e) :
    ∃ a ∈ as, f a = .error e := by
  induction as with
  | nil => cases h
  | cons a as ih =>
    cases hf : f a with
    | error e' =>
      rw [mapM_cons_of_error hf] at h
      cases h
      exact ⟨a, List.mem_cons_self, hf⟩
    | ok b =>
      rw [mapM_cons_of_ok hf, map_eq_error_iff] at h
      obtain ⟨a', ha', he⟩ := ih h
      exact ⟨a', List.mem_cons_of_mem _ ha', he⟩

/-- Attempts whose results have the same image, or the same error, do so in a row too. -/
theorem map_mapM_congr {γ : Type} {f' : α → Except ε β} {g : β → γ} (as : List α)
    (h : ∀ a, g <$> f a = g <$> f' a) : List.map g <$> as.mapM f = List.map g <$> as.mapM f' := by
  induction as with
  | nil => rfl
  | cons a as ih =>
    have ha := h a
    cases hf : f a with
    | error e =>
      rw [hf, eq_comm] at ha
      rw [mapM_cons_of_error hf, mapM_cons_of_error (map_eq_error_iff.mp ha)]
    | ok b =>
      rw [hf, eq_comm] at ha
      obtain ⟨b', hf', hb⟩ := map_eq_ok_iff.mp ha
      have hcons (bs : Except ε (List β)) : List.map g <$> (b :: ·) <$> bs =
          List.map g <$> (b' :: ·) <$> bs := by
        cases bs <;> simp [Functor.map, Except.map, hb]
      have hmap (bs : Except ε (List β)) : List.map g <$> (b' :: ·) <$> bs =
          (g b' :: ·) <$> List.map g <$> bs := by
        cases bs <;> rfl
      rw [mapM_cons_of_ok hf, mapM_cons_of_ok hf', hcons, hmap, ih, hmap]

/-- Attempts in two passes are attempts one after the other for each item. -/
theorem exists_forall₂_iff {γ : Type} {R : α → β → Prop} {S : β → γ → Prop} {as : List α}
    {cs : List γ} : (∃ bs, List.Forall₂ R as bs ∧ List.Forall₂ S bs cs) ↔
      List.Forall₂ (fun a c => ∃ b, R a b ∧ S b c) as cs := by
  constructor
  · rintro ⟨bs, hr, hs⟩
    induction hr generalizing cs with
    | nil =>
      cases hs
      exact .nil
    | cons hab _ ih =>
      cases hs with
      | cons hbc hs => exact .cons ⟨_, hab, hbc⟩ (ih hs)
  · intro h
    induction h with
    | nil => exact ⟨[], .nil, .nil⟩
    | cons hac _ ih =>
      obtain ⟨b, hab, hbc⟩ := hac
      obtain ⟨bs, hr, hs⟩ := ih
      exact ⟨b :: bs, .cons hab hr, .cons hbc hs⟩

theorem exists_mem_of_forall₂ {R : α → β → Prop} {as : List α} {bs : List β}
    (h : List.Forall₂ R as bs) {b : β} (hb : b ∈ bs) : ∃ a ∈ as, R a b := by
  induction h with
  | nil => simp at hb
  | cons hab _ ih =>
    rcases List.mem_cons.mp hb with rfl | hb
    · exact ⟨_, List.mem_cons_self, hab⟩
    · obtain ⟨a, ha, hab⟩ := ih hb
      exact ⟨a, List.mem_cons_of_mem _ ha, hab⟩

theorem mem_iff_of_forall₂ {R : α → β → Prop} (hr : Relator.RightUnique R) {as : List α} {bs : List β}
    (h : List.Forall₂ R as bs) {b : β} : b ∈ bs ↔ ∃ a ∈ as, R a b := by
  refine ⟨exists_mem_of_forall₂ h, ?_⟩
  rintro ⟨a, ha, hab⟩
  obtain ⟨b', hb', hab'⟩ := exists_mem_of_forall₂ h.flip ha
  exact hr hab hab' ▸ hb'

theorem exists_forall₂_iff_forall_exists {R : α → β → Prop} {as : List α} :
    (∃ bs, List.Forall₂ R as bs) ↔ ∀ a ∈ as, ∃ b, R a b := by
  constructor
  · rintro ⟨bs, h⟩ a ha
    obtain ⟨b, _, hab⟩ := exists_mem_of_forall₂ h.flip ha
    exact ⟨b, hab⟩
  · intro h
    induction as with
    | nil => exact ⟨[], .nil⟩
    | cons a as ih =>
      obtain ⟨b, hab⟩ := h a List.mem_cons_self
      obtain ⟨bs, hbs⟩ := ih fun a ha => h a (List.mem_cons_of_mem _ ha)
      exact ⟨b :: bs, .cons hab hbs⟩

theorem map_eq_of_forall₂ {γ : Type} {f : α → γ} {g : β → γ} {as : List α} {bs : List β}
    (h : List.Forall₂ (fun a b => g b = f a) as bs) : bs.map g = as.map f := by
  rw [← List.forall₂_eq_eq_eq, List.forall₂_map_left_iff, List.forall₂_map_right_iff]
  exact h.flip

end ClientGen.Except
