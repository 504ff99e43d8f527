import ClientGen.Run

namespace ClientGen.Client

variable {declared declared' : List String} {elements : List Element} {element : Element}

abbrev iterators (elements : List Element) : List String := elements.map (·.iterator)

theorem newElements_of_mem (h : element.iterator ∈ declared) :
    newElements declared (element :: elements) = newElements declared elements := by
  rw [newElements, if_pos h]

theorem newElements_of_notMem (h : element.iterator ∉ declared) :
    newElements declared (element :: elements) =
      element :: newElements (element.iterator :: declared) elements := by
  rw [newElements, if_neg h]

/-- Only which names are declared counts, not their order or how often they are listed. -/
theorem newElements_congr (h : ∀ name, name ∈ declared ↔ name ∈ declared') :
    newElements declared elements = newElements declared' elements := by
  induction elements generalizing declared declared' with
  | nil => rfl
  | cons element elements ih =>
    by_cases hd : element.iterator ∈ declared
    · rw [newElements_of_mem hd, newElements_of_mem ((h _).mp hd)]
      exact ih h
    · rw [newElements_of_notMem hd, newElements_of_notMem (fun hd' => hd ((h _).mpr hd'))]
      congr 1
      refine ih fun name => ?_
      rw [List.mem_cons, List.mem_cons, h]

/-- Names that were declared before leave out their elements, and no others. -/
theorem newElements_append_declared :
    newElements (declared' ++ declared) elements =
      (newElements declared elements).filter (·.iterator ∉ declared') := by
  induction elements generalizing declared with
  | nil => rfl
  | cons element elements ih =>
    by_cases hd : element.iterator ∈ declared
    · rw [newElements_of_mem hd, newElements_of_mem (List.mem_append_right _ hd), ih]
    · rw [newElements_of_notMem hd]
      by_cases hd' : element.iterator ∈ declared'
      · rw [newElements_of_mem (List.mem_append_left _ hd'), List.filter_cons_of_neg (by simp [hd'])]
        rw [← ih]
        refine newElements_congr fun name => ?_
        rw [List.mem_append, List.mem_append, List.mem_cons]
        constructor
        · rintro (h | h)
          · exact .inl h
          · exact .inr (.inr h)
        · rintro (h | rfl | h)
          · exact .inl h
          · exact .inl hd'
          · exact .inr h
      · have hn : element.iterator ∉ declared' ++ declared := by simp [hd, hd']
        rw [newElements_of_notMem hn, List.filter_cons_of_pos (by simp [hd']), ← ih]
        congr 1
        refine newElements_congr fun name => ?_
        rw [List.mem_cons, List.mem_append, List.mem_append, List.mem_cons, or_left_comm]

theorem newElements_append {others : List Element} :
    newElements declared (elements ++ others) =
      newElements declared elements ++ newElements (iterators elements ++ declared) others := by
  induction elements generalizing declared with
  | nil => rfl
  | cons element elements ih =>
    by_cases hd : element.iterator ∈ declared
    · rw [List.cons_append, newElements_of_mem hd, newElements_of_mem hd, ih]
      congr 1
      refine newElements_congr fun name => ?_
      simp only [List.map_cons, List.cons_append, List.mem_cons, List.mem_append]
      constructor
      · exact .inr
      · rintro (rfl | h)
        · exact .inr hd
        · exact h
    · rw [List.cons_append, newElements_of_notMem hd, newElements_of_notMem hd, List.cons_append, ih]
      congr 2
      refine newElements_congr fun name => ?_
      simp only [List.map_cons, List.cons_append, List.mem_cons, List.mem_append]
      exact or_left_comm

/-- The first element with an iterator's name is the one that declares it. -/
theorem find?_newElements {name : String} (h : name ∉ declared) :
    (newElements declared elements).find? (·.iterator == name) =
      elements.find? (·.iterator == name) := by
  induction elements generalizing declared with
  | nil => rfl
  | cons element elements ih =>
    by_cases hn : element.iterator = name
    · subst hn
      rw [newElements_of_notMem h]
      simp
    · have hb : (element.iterator == name) = false := by simpa using hn
      rw [List.find?_cons, hb]
      by_cases hd : element.iterator ∈ declared
      · rw [newElements_of_mem hd]
        exact ih h
      · rw [newElements_of_notMem hd, List.find?_cons, hb]
        refine ih ?_
        rw [List.mem_cons, not_or]
        exact ⟨Ne.symm hn, h⟩

theorem iterator_notMem_of_mem_newElements (h : element ∈ newElements declared elements) :
    element.iterator ∉ declared := by
  have he : newElements (declared ++ []) elements =
      (newElements [] elements).filter (·.iterator ∉ declared) := newElements_append_declared
  rw [List.append_nil] at he
  rw [he, List.mem_filter] at h
  simpa using h.2

theorem newElements_sublist (declared : List String) (elements : List Element) :
    (newElements declared elements).Sublist elements := by
  induction elements generalizing declared with
  | nil => exact .slnil
  | cons element elements ih =>
    by_cases hd : element.iterator ∈ declared
    · rw [newElements_of_mem hd]
      exact .cons _ (ih _)
    · rw [newElements_of_notMem hd]
      exact .cons_cons _ (ih _)

theorem mem_iterators_newElements {name : String} :
    name ∈ iterators (newElements declared elements) ↔
      name ∈ iterators elements ∧ name ∉ declared := by
  constructor
  · intro h
    obtain ⟨element, he, rfl⟩ := List.mem_map.mp h
    refine ⟨List.mem_map_of_mem ((newElements_sublist _ _).subset he), ?_⟩
    exact iterator_notMem_of_mem_newElements he
  · rintro ⟨h, hn⟩
    have hsome : ((newElements declared elements).find? (·.iterator == name)).isSome := by
      rw [find?_newElements hn, List.find?_isSome]
      obtain ⟨element, he, rfl⟩ := List.mem_map.mp h
      exact ⟨element, he, by simp⟩
    obtain ⟨element, he, hn⟩ := List.find?_isSome.mp hsome
    exact List.mem_map.mpr ⟨element, he, by simpa using hn⟩

theorem nodup_iterators_newElements (declared : List String) (elements : List Element) :
    (iterators (newElements declared elements)).Nodup := by
  induction elements generalizing declared with
  | nil => exact .nil
  | cons element elements ih =>
    by_cases hd : element.iterator ∈ declared
    · rw [newElements_of_mem hd]
      exact ih _
    · rw [newElements_of_notMem hd]
      refine List.nodup_cons.mpr ⟨?_, ih _⟩
      rw [mem_iterators_newElements]
      simp

/-- The iterators that are new come in the order of their first use. -/
theorem iterators_newElements (declared : List String) (elements : List Element) :
    iterators (newElements declared elements) =
      ((iterators elements).filter (· ∉ declared)).eraseDups := by
  have hcons (element : Element) (elements : List Element) :
      iterators (element :: elements) = element.iterator :: iterators elements := rfl
  induction elements generalizing declared with
  | nil => rfl
  | cons element elements ih =>
    by_cases hd : element.iterator ∈ declared
    · rw [newElements_of_mem hd, ih, hcons, List.filter_cons_of_neg (by simpa using hd)]
    · rw [newElements_of_notMem hd, hcons, ih, hcons, List.filter_cons_of_pos (by simpa using hd),
        List.eraseDups_cons, List.filter_filter]
      congr 2
      refine List.filter_congr fun name _ => ?_
      by_cases hn : name = element.iterator <;> simp [hn]

def fileDeclaring (options : Options) (client : Client) (new : List Element) : OutputFile where
  name := client.fileName options
  content := client.header options ++ Emitter.render (Code.seq [
    client.scaffold,
    client.calls.flatMap client.method,
    new.flatMap Element.declaration])

end ClientGen.Client
