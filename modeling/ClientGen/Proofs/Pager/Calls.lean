import ClientGen.Proofs.Pager.History

namespace ClientGen.Pager

open History

variable {α ε : Type} {history : History α ε} {size : Nat}

/-- A call that has its result at once leaves the answers alone. -/
theorem next_pager_of_result (h : history.Valid) {result : Except (Stop ε) α}
    (hr : history.result? history.given = some result) (answers : List (Except ε (Page α))) :
    (history.pager size).next answers = some ⟨result, history.advance.pager size, [], answers⟩ := by
  have hready := ready?_pager h size
  rw [hr, Option.map_some] at hready
  unfold Pager.next
  simp [hready]

theorem next_pager_nil (h : history.Valid) (hr : history.result? history.given = none) :
    (history.pager size).next [] = none := by
  have hready := ready?_pager h size
  rw [hr, Option.map_none] at hready
  simp [next, hready]

/-- A call without a result takes an answer, which becomes part of the history, and goes on from
there. -/
theorem next_pager_cons (h : history.Valid) (hr : history.result? history.given = none)
    (answer : Except ε (Page α)) (rest : List (Except ε (Page α))) :
    (history.pager size).next (answer :: rest) =
      (((history.push answer).pager size).next rest).map fun outcome =>
        { outcome with
          fetches := ((history.pager size).pageSize, (history.pager size).token) ::
            outcome.fetches } := by
  have hready := ready?_pager h size
  rw [hr, Option.map_none] at hready
  rw [← receive_pager h (result?_eq_none_iff.mp hr).2]
  simp [next, hready]

/-- What one call does, in terms of the history: it waits for the answers that it needs and gives
the result that the history then tells. -/
theorem next_pager (h : history.Valid) {answers : List (Except ε (Page α))} {outcome : Outcome α ε}
    (ho : (history.pager size).next answers = some outcome) :
    ∃ asked after, Waits history asked after ∧ answers = asked ++ outcome.answers ∧
      after.result? history.given = some outcome.result ∧
      outcome.pager = after.advance.pager size ∧
      after.fetches size = history.fetches size ++ outcome.fetches := by
  induction answers generalizing history outcome with
  | nil =>
    cases hr : history.result? history.given with
    | none =>
      rw [next_pager_nil h hr] at ho
      cases ho
    | some result =>
      rw [next_pager_of_result h hr] at ho
      cases ho
      exact ⟨[], history, .nothing _, rfl, hr, rfl, by simp⟩
  | cons answer rest ih =>
    cases hr : history.result? history.given with
    | some result =>
      rw [next_pager_of_result h hr] at ho
      cases ho
      exact ⟨[], history, .nothing _, rfl, hr, rfl, by simp⟩
    | none =>
      rw [next_pager_cons h hr] at ho
      obtain ⟨inner, hi, rfl⟩ := Option.map_eq_some_iff.mp ho
      obtain ⟨asked, after, hw, ha, hres, hp, hf⟩ := ih (h.push hr answer) hi
      rw [given_push] at hres
      refine ⟨answer :: asked, after, .fetch hr hw, by simp [ha], hres, hp, ?_⟩
      rw [hf, fetches_push (failure_eq_none (result?_eq_none_iff.mp hr).2)]
      simp

/-- A call does not end just when it has no result yet and meets nothing but empty pages. -/
theorem next_pager_eq_none_iff (h : history.Valid) {answers : List (Except ε (Page α))} :
    (history.pager size).next answers = none ↔
      history.result? history.given = none ∧ ∀ answer ∈ answers, IsEmptyPage answer := by
  induction answers generalizing history with
  | nil =>
    cases hr : history.result? history.given with
    | none => simp [next_pager_nil h hr]
    | some result => simp [next_pager_of_result h hr]
  | cons answer rest ih =>
    cases hr : history.result? history.given with
    | some result => simp [next_pager_of_result h hr]
    | none =>
      rw [next_pager_cons h hr, Option.map_eq_none_iff, ih (h.push hr answer), given_push,
        result?_push_eq_none_iff h hr]
      simp

/-- The calls made so far: what each of them did, and the pager and the answers that are left. -/
structure Calls (α ε : Type) where
  outcomes : List (Outcome α ε)
  pager : Pager α ε
  answers : List (Except ε (Page α))

def Calls.more (calls : Calls α ε) : Option (Calls α ε) :=
  (calls.pager.next calls.answers).map fun outcome =>
    ⟨calls.outcomes ++ [outcome], outcome.pager, outcome.answers⟩

def calls (size : Nat) (answers : List (Except ε (Page α))) : Nat → Option (Calls α ε)
  | 0 => some ⟨[], start size, answers⟩
  | n + 1 => (calls size answers n).bind Calls.more

structure Calls.Meets (calls : Calls α ε) (size n : Nat) (answers : List (Except ε (Page α)))
    (history : History α ε) : Prop where
  valid : history.Valid
  answers_eq : answers = history.answers ++ calls.answers
  pager_eq : calls.pager = history.pager size
  given_eq : history.given = min n history.elements.length
  results_eq : calls.outcomes.map (some ·.result) = (List.range n).map history.result?
  fetches_eq : calls.outcomes.flatMap (·.fetches) = history.fetches size

variable {n : Nat} {answers : List (Except ε (Page α))} {s t : Calls α ε}

theorem Calls.Meets.result?_given (h : s.Meets size n answers history) :
    history.result? history.given = history.result? n := by
  rw [h.given_eq]
  by_cases hn : n ≤ history.elements.length
  · rw [Nat.min_eq_left hn]
  · rw [Nat.min_eq_right (by omega), result?_of_le (Nat.le_refl _), result?_of_le (by omega)]

theorem Calls.Meets.result?_ne_none (h : s.Meets size n answers history) {i : Nat} (hi : i < n) :
    history.result? i ≠ none := by
  have hm : history.result? i ∈ s.outcomes.map (some ·.result) := by
    rw [h.results_eq]
    exact List.mem_map.mpr ⟨i, List.mem_range.mpr hi, rfl⟩
  obtain ⟨outcome, _, ho⟩ := List.mem_map.mp hm
  rw [← ho]
  exact Option.some_ne_none _

theorem Calls.Meets.drop_elements (h : s.Meets size n answers history) :
    s.pager.buffer = history.elements.drop n := by
  rw [h.pager_eq]
  simp only [History.pager, h.given_eq]
  by_cases hn : n ≤ history.elements.length
  · rw [Nat.min_eq_left hn]
  · rw [Nat.min_eq_right (by omega), List.drop_length, List.drop_eq_nil_of_le (by omega)]

theorem Calls.Meets.result?_eq_none_iff (h : s.Meets size n answers history) :
    history.result? history.given = none ↔ s.pager.buffer = [] ∧ history.stop? = none := by
  rw [h.result?_given, History.result?_eq_none_iff, h.drop_elements, List.drop_eq_nil_iff]

/-- While a call waits, each call before it has had an element. -/
theorem Calls.Meets.given_of_none (h : s.Meets size n answers history)
    (hr : history.result? history.given = none) : history.given = n := by
  have hg := h.given_eq
  by_cases hn : n ≤ history.elements.length
  · omega
  · have hs : history.result? (n - 1) = history.stop?.map .error := result?_of_le (by omega)
    rw [h.result?_given, result?_of_le (by omega), ← hs] at hr
    exact absurd hr (h.result?_ne_none (by omega))

theorem Calls.Meets.given_after (h : s.Meets size n answers history)
    {asked : List (Except ε (Page α))} {after : History α ε} (hw : Waits history asked after) :
    min (history.given + 1) after.elements.length = min (n + 1) after.elements.length := by
  cases hw with
  | nothing =>
    have hg := h.given_eq
    omega
  | fetch hr _ => rw [h.given_of_none hr]

theorem Calls.Meets.result?_after (h : s.Meets size n answers history)
    {asked : List (Except ε (Page α))} {after : History α ε} (hw : Waits history asked after) :
    after.result? n = after.result? history.given := by
  cases hw with
  | nothing => exact h.result?_given.symm
  | fetch hr _ => rw [h.given_of_none hr]

theorem Calls.meets_start : Calls.Meets ⟨[], start size, answers⟩ size 0 answers History.empty :=
  ⟨valid_empty, by simp [History.empty, History.answers], rfl, by simp [History.empty], by simp,
    by simp [History.empty, History.answers, History.fetches]⟩

theorem Calls.Meets.more (h : s.Meets size n answers history) (ht : s.more = some t) :
    ∃ after, t.Meets size (n + 1) answers after := by
  obtain ⟨outcome, ho, rfl⟩ := Option.map_eq_some_iff.mp ht
  rw [h.pager_eq] at ho
  obtain ⟨asked, after, hw, ha, hr, hp, hf⟩ := next_pager h.valid ho
  refine ⟨after.advance, (hw.valid h.valid).advance, ?_, hp, ?_, ?_, ?_⟩
  · rw [h.answers_eq, ha, ← List.append_assoc, ← hw.answers_eq]
    rfl
  · have hg := h.given_after hw
    rw [← hw.given_eq] at hg
    exact hg
  · -- what was fetched since leaves the results of earlier calls as they were
    have hold : (List.range n).map history.result? = (List.range n).map after.result? := by
      apply List.map_congr_left
      intro i hi
      obtain ⟨result, hres⟩ := Option.ne_none_iff_exists'.mp
        (h.result?_ne_none (List.mem_range.mp hi))
      rw [hres, hw.result? hres]
    have hlast : after.result? n = some outcome.result := (h.result?_after hw).trans hr
    simp only [List.map_append, h.results_eq, hold, List.range_succ, List.map_cons, List.map_nil]
    exact congrArg _ (congrArg (· :: []) hlast.symm)
  · rw [List.flatMap_append, h.fetches_eq, List.flatMap_singleton]
    exact hf.symm

theorem exists_meets (h : calls size answers n = some s) :
    ∃ history, s.Meets size n answers history := by
  induction n generalizing s with
  | zero =>
    cases h
    exact ⟨.empty, Calls.meets_start⟩
  | succ n ih =>
    obtain ⟨before, hb, hm⟩ := Option.bind_eq_some_iff.mp h
    obtain ⟨history, hh⟩ := ih hb
    exact hh.more hm

theorem toInt_clampPageSize (size : Nat) :
    (clampPageSize size).toInt = min (size : Int) 2147483647 := by
  have hs : (0 : Int) ≤ size := Int.natCast_nonneg size
  exact Int32.toInt_ofInt_of_le (by omega) (by omega)

theorem length_fetches (history : History α ε) (size : Nat) :
    (history.fetches size).length = history.answers.length := by
  cases hf : history.failure <;> simp [History.fetches, answers, tokens, hf]

/-- Calls run through the pages as an iterator should. The history tells which answers they took,
the result of each call, and the page size and token of each fetch. What is fetched and not yet
given out is buffered. A call fetches only if nothing is buffered and no reason to stop is known,
and goes on only over empty pages; it does not end only if nothing else comes. -/
structure Calls.Follows (s : Calls α ε) (size n : Nat) (answers : List (Except ε (Page α)))
    (history : History α ε) : Prop where
  valid : history.Valid
  answers_eq : answers = history.answers ++ s.answers
  results_eq : s.outcomes.map (some ·.result) = (List.range n).map history.result?
  fetches_eq : s.outcomes.flatMap (·.fetches) = history.fetches size
  pageSize_eq : ∀ fetch ∈ history.fetches size, fetch.1.toInt = min (size : Int) 2147483647
  buffer_eq : s.pager.buffer = history.elements.drop n
  drained_of_fetch : ∀ outcome, s.pager.next s.answers = some outcome → outcome.fetches ≠ [] →
    s.pager.buffer = [] ∧ history.stop? = none ∧
      ∃ asked, s.answers = asked ++ outcome.answers ∧ asked.length = outcome.fetches.length ∧
        ∀ answer ∈ asked.dropLast, IsEmptyPage answer
  next_eq_none_iff : s.pager.next s.answers = none ↔
    s.pager.buffer = [] ∧ history.stop? = none ∧ ∀ answer ∈ s.answers, IsEmptyPage answer

theorem Calls.Meets.drained_of_fetch (h : s.Meets size n answers history) {outcome : Outcome α ε}
    (ho : s.pager.next s.answers = some outcome) (hne : outcome.fetches ≠ []) :
    s.pager.buffer = [] ∧ history.stop? = none ∧
      ∃ asked, s.answers = asked ++ outcome.answers ∧ asked.length = outcome.fetches.length ∧
        ∀ answer ∈ asked.dropLast, IsEmptyPage answer := by
  rw [h.pager_eq] at ho
  obtain ⟨asked, after, hw, ha, _, _, hf⟩ := next_pager h.valid ho
  have hlen : asked.length = outcome.fetches.length := by
    have hl := congrArg List.length hf
    rw [List.length_append, length_fetches, length_fetches, hw.answers_eq, List.length_append] at hl
    omega
  have hasked : asked ≠ [] := by
    rintro rfl
    exact hne (List.length_eq_zero_iff.mp hlen.symm)
  obtain ⟨hb, hs⟩ := h.result?_eq_none_iff.mp (hw.eq_none hasked)
  exact ⟨hb, hs, asked, ha, hlen, hw.isEmptyPage h.valid⟩

/-- However many calls have ended, and whatever the server has answered. -/
theorem exists_follows (h : calls size answers n = some s) :
    ∃ history, s.Follows size n answers history := by
  obtain ⟨history, hm⟩ := exists_meets h
  refine ⟨history, hm.valid, hm.answers_eq, hm.results_eq, hm.fetches_eq, ?_,
    hm.drop_elements, ?_, ?_⟩
  · intro fetch hf
    obtain ⟨token, _, rfl⟩ := List.mem_map.mp hf
    exact toInt_clampPageSize size
  · exact fun outcome => hm.drained_of_fetch
  · rw [hm.pager_eq, next_pager_eq_none_iff hm.valid, hm.result?_eq_none_iff, hm.pager_eq, and_assoc]

/-- Two pages with an empty one between them, and two calls after the end. -/
theorem exists_follows_three_pages :
    ∃ s : Calls Nat String,
      calls 3000000000 [.ok ⟨[1, 2], "b"⟩, .ok ⟨[], "c"⟩, .ok ⟨[3], ""⟩] 5 = some s ∧
        ∃ history, s.Follows 3000000000 5 [.ok ⟨[1, 2], "b"⟩, .ok ⟨[], "c"⟩, .ok ⟨[3], ""⟩] history :=
  ⟨_, rfl, exists_follows rfl⟩

end ClientGen.Pager
