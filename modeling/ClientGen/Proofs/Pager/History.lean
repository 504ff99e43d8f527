import ClientGen.Call.Pager
import Mathlib.Data.List.Basic
import Mathlib.Data.List.TakeDrop

namespace ClientGen.Pager

variable {α ε : Type}

/-- What a pager has met so far: the pages it has fetched, the failure that ended the fetching, and
how many elements it has given out. -/
structure History (α ε : Type) where
  pages : List (Page α)
  failure : Option ε
  given : Nat

namespace History

def empty : History α ε := ⟨[], none, 0⟩

def elements (history : History α ε) : List α :=
  history.pages.flatMap (·.items)

def tokens (history : History α ε) : List String :=
  "" :: history.pages.map (·.nextToken)

def answers (history : History α ε) : List (Except ε (Page α)) :=
  history.pages.map .ok ++ history.failure.toList.map .error

def fetches (history : History α ε) (size : Nat) : List (Int32 × String) :=
  (history.tokens.take history.answers.length).map (clampPageSize size, ·)

def stop? (history : History α ε) : Option (Stop ε) :=
  match history.failure with
  | some error => some (.failed error)
  | none => if history.pages.getLast?.any (·.nextToken.isEmpty) then some .done else none

def result? (history : History α ε) (i : Nat) : Option (Except (Stop ε) α) :=
  match history.elements[i]? with
  | some item => some (.ok item)
  | none => history.stop?.map .error

def push (history : History α ε) : Except ε (Page α) → History α ε
  | .ok page => { history with pages := history.pages ++ [page] }
  | .error error => { history with failure := some error }

def advance (history : History α ε) : History α ε :=
  { history with given := min (history.given + 1) history.elements.length }

def pager (history : History α ε) (size : Nat) : Pager α ε where
  buffer := history.elements.drop history.given
  pageSize := clampPageSize size
  token := history.tokens.getLast (by simp [tokens])
  lastPage := history.pages.getLast?.any (·.nextToken.isEmpty)
  failure := history.failure

/-- Only the last page has an empty token, and none has if a later fetch failed. A failure comes
when all elements have been given out. -/
structure Valid (history : History α ε) : Prop where
  given_le : history.given ≤ history.elements.length
  open_dropLast : ∀ page ∈ history.pages.dropLast, page.nextToken ≠ ""
  open_of_failure : history.failure.isSome → ∀ page ∈ history.pages, page.nextToken ≠ ""
  drained_of_failure : history.failure.isSome → history.given = history.elements.length

variable {history : History α ε} {size : Nat}

theorem valid_empty : (empty : History α ε).Valid :=
  ⟨by simp [empty], by simp [empty], by simp [empty], by simp [empty]⟩

theorem result?_of_le {i : Nat} (h : history.elements.length ≤ i) :
    history.result? i = history.stop?.map .error := by
  rw [result?, List.getElem?_eq_none h]

theorem result?_of_lt {i : Nat} (h : i < history.elements.length) :
    history.result? i = some (.ok history.elements[i]) := by
  rw [result?, List.getElem?_eq_getElem h]

theorem result?_eq_none_iff {i : Nat} :
    history.result? i = none ↔ history.elements.length ≤ i ∧ history.stop? = none := by
  by_cases h : i < history.elements.length
  · simp [result?_of_lt h, Nat.not_le.mpr h]
  · simp [result?_of_le (Nat.not_lt.mp h), Nat.not_lt.mp h]

theorem advance_of_le (h : history.given = history.elements.length) : history.advance = history := by
  have hm : min (history.given + 1) history.elements.length = history.given := by omega
  rw [advance, hm]

theorem advance_of_lt (h : history.given < history.elements.length) :
    history.advance = { history with given := history.given + 1 } := by
  rw [advance, Nat.min_eq_left h]

theorem Valid.advance (h : history.Valid) : history.advance.Valid where
  given_le := Nat.min_le_right _ _
  open_dropLast := h.open_dropLast
  open_of_failure := h.open_of_failure
  drained_of_failure hf := by
    rw [advance_of_le (h.drained_of_failure hf)]
    exact h.drained_of_failure hf

/-- What a pager knows without a fetch is the result that its history tells. -/
theorem ready?_pager (h : history.Valid) (size : Nat) :
    (history.pager size).ready? =
      (history.result? history.given).map fun result => (result, history.advance.pager size) := by
  by_cases hg : history.given < history.elements.length
  · -- a failure would have come after the last element
    have hf : history.failure = none := by
      cases hf : history.failure with
      | none => rfl
      | some error => exact absurd (h.drained_of_failure (by simp [hf])) (by omega)
    rw [result?_of_lt hg, advance_of_lt hg]
    simp only [ready?, pager, hf, List.drop_eq_getElem_cons hg, Option.map_some]
    rfl
  · have hg' : history.given = history.elements.length :=
      Nat.le_antisymm h.given_le (Nat.not_lt.mp hg)
    rw [result?_of_le (by omega), advance_of_le hg']
    have hd : history.elements.drop history.given = [] := by simp [hg']
    cases hf : history.failure with
    | some error => simp [ready?, pager, stop?, hf]
    | none =>
      cases hl : history.pages.getLast?.any (·.nextToken.isEmpty) with
      | true => simp [ready?, pager, stop?, hf, hd, hl]
      | false => simp [ready?, pager, stop?, hf, hd, hl]

theorem failure_eq_none (hs : history.stop? = none) : history.failure = none := by
  cases hf : history.failure with
  | none => rfl
  | some error => simp [stop?, hf] at hs

/-- While a pager goes on, every page has told it where to go on. -/
theorem Valid.open_of_stop? (h : history.Valid) (hs : history.stop? = none) :
    ∀ page ∈ history.pages, page.nextToken ≠ "" := by
  intro page hp
  rcases List.eq_nil_or_concat history.pages with hn | ⟨init, last, hc⟩
  · simp [hn] at hp
  · have hl : last.nextToken ≠ "" := by
      intro he
      simp [stop?, failure_eq_none hs, hc, he] at hs
    have hi := h.open_dropLast
    simp only [hc, List.concat_eq_append, List.dropLast_concat] at hi
    rw [hc, List.concat_eq_append, List.mem_append, List.mem_singleton] at hp
    rcases hp with hp | rfl
    · exact hi page hp
    · exact hl

theorem elements_push_ok (page : Page α) :
    (history.push (.ok page)).elements = history.elements ++ page.items := by
  simp [push, elements]

theorem given_push (answer : Except ε (Page α)) : (history.push answer).given = history.given := by
  cases answer <;> rfl

theorem answers_push (hf : history.failure = none) (answer : Except ε (Page α)) :
    (history.push answer).answers = history.answers ++ [answer] := by
  cases answer <;> simp [push, answers, hf]

theorem Valid.push (h : history.Valid) (hr : history.result? history.given = none)
    (answer : Except ε (Page α)) : (history.push answer).Valid := by
  obtain ⟨hg, hs⟩ := result?_eq_none_iff.mp hr
  have hf := failure_eq_none hs
  have ho := h.open_of_stop? hs
  cases answer with
  | ok page =>
    refine ⟨?_, ?_, ?_, ?_⟩
    · rw [elements_push_ok, List.length_append]
      exact Nat.le_trans h.given_le (Nat.le_add_right _ _)
    · simpa [History.push] using ho
    · simp [History.push, hf]
    · simp [History.push, hf]
  | error error =>
    refine ⟨h.given_le, h.open_dropLast, fun _ => ho, fun _ => ?_⟩
    exact Nat.le_antisymm h.given_le hg

/-- Receiving an answer does to the pager what the answer does to its history. -/
theorem receive_pager (h : history.Valid) (hs : history.stop? = none) (answer : Except ε (Page α)) :
    (history.pager size).receive answer = (history.push answer).pager size := by
  have hf := failure_eq_none hs
  cases answer with
  | ok page =>
    have hb : history.elements.drop history.given ++ page.items =
        (history.push (.ok page)).elements.drop history.given := by
      rw [elements_push_ok, List.drop_append_of_le_length h.given_le]
    simp only [receive, pager, hb]
    simp [push, tokens]
  | error error => rfl

theorem take_tokens_push (hf : history.failure = none) (answer : Except ε (Page α)) :
    (history.push answer).tokens.take (history.push answer).answers.length = history.tokens := by
  have ht : history.tokens.length = history.answers.length + 1 := by simp [tokens, answers, hf]
  rw [answers_push hf, List.length_append, List.length_singleton, ← ht]
  cases answer with
  | ok page => simp [push, tokens]
  | error error => simp [push, tokens]

theorem fetches_push (hf : history.failure = none) (answer : Except ε (Page α)) :
    (history.push answer).fetches size =
      history.fetches size ++ [((history.pager size).pageSize, (history.pager size).token)] := by
  have ht : history.tokens.take history.answers.length ++ [(history.pager size).token] =
      history.tokens := by
    have hl : history.answers.length = history.tokens.length - 1 := by simp [tokens, answers, hf]
    rw [hl, ← List.dropLast_eq_take]
    exact List.dropLast_append_getLast _
  rw [fetches, fetches, take_tokens_push hf]
  conv_lhs => rw [← ht]
  simp [pager]

/-- A page without elements that is not the last one. -/
def IsEmptyPage : Except ε (Page α) → Prop
  | .ok page => page.items = [] ∧ page.nextToken ≠ ""
  | .error _ => False

/-- An answer leaves the waiting call without a result just when it is an empty page. -/
theorem result?_push_eq_none_iff (h : history.Valid) (hr : history.result? history.given = none)
    (answer : Except ε (Page α)) :
    (history.push answer).result? history.given = none ↔ IsEmptyPage answer := by
  obtain ⟨hg, hs⟩ := result?_eq_none_iff.mp hr
  have hf := failure_eq_none hs
  rw [result?_eq_none_iff]
  cases answer with
  | ok page =>
    have hl : history.elements.length + page.items.length ≤ history.given ↔ page.items = [] := by
      have hi := h.given_le
      rw [← List.length_eq_zero_iff]
      omega
    rw [elements_push_ok, List.length_append, hl]
    simp [stop?, push, hf, IsEmptyPage]
  | error error => simp [stop?, push, IsEmptyPage]

/-- Results that calls have had do not change. -/
theorem result?_push (hr : history.result? history.given = none) (answer : Except ε (Page α))
    {i : Nat} {result : Except (Stop ε) α} (hi : history.result? i = some result) :
    (history.push answer).result? i = some result := by
  have hs := (result?_eq_none_iff.mp hr).2
  by_cases hl : i < history.elements.length
  · have hg : (history.push answer).elements[i]? = some history.elements[i] := by
      cases answer with
      | ok page => rw [elements_push_ok, List.getElem?_append_left hl, List.getElem?_eq_getElem hl]
      | error error => exact List.getElem?_eq_getElem hl
    rw [← hi, result?_of_lt hl]
    simp only [result?, hg]
  · rw [result?_of_le (Nat.not_lt.mp hl), hs] at hi
    simp at hi

/-- `Waits history asked after`: the waiting call fetches the answers `asked` one by one, and
`after` is the history then. -/
inductive Waits : History α ε → List (Except ε (Page α)) → History α ε → Prop
  | nothing (history : History α ε) : Waits history [] history
  | fetch {history after : History α ε} {answer : Except ε (Page α)}
      {asked : List (Except ε (Page α))} (hr : history.result? history.given = none)
      (ha : Waits (history.push answer) asked after) : Waits history (answer :: asked) after

variable {asked : List (Except ε (Page α))} {after : History α ε}

theorem Waits.valid (h : Waits history asked after) (hv : history.Valid) : after.Valid := by
  induction h with
  | nothing => exact hv
  | fetch hr _ ih => exact ih (hv.push hr _)

theorem Waits.given_eq (h : Waits history asked after) : after.given = history.given := by
  induction h with
  | nothing => rfl
  | fetch _ _ ih => rw [ih, given_push]

theorem Waits.answers_eq (h : Waits history asked after) :
    after.answers = history.answers ++ asked := by
  induction h with
  | nothing => simp
  | fetch hr _ ih =>
    have hf := failure_eq_none (result?_eq_none_iff.mp hr).2
    rw [ih, answers_push hf, List.append_assoc, List.singleton_append]

theorem Waits.result? (h : Waits history asked after) {i : Nat} {result : Except (Stop ε) α}
    (hi : history.result? i = some result) : after.result? i = some result := by
  induction h with
  | nothing => exact hi
  | fetch hr _ ih => exact ih (result?_push hr _ hi)

theorem Waits.eq_none (h : Waits history asked after) (hn : asked ≠ []) :
    history.result? history.given = none := by
  cases h with
  | nothing => exact absurd rfl hn
  | fetch hr _ => exact hr

theorem Waits.isEmptyPage (h : Waits history asked after) (hv : history.Valid) :
    ∀ answer ∈ asked.dropLast, IsEmptyPage answer := by
  induction h with
  | nothing => simp
  | @fetch history after answer asked hr ha ih =>
    cases asked with
    | nil => simp
    | cons second asked =>
      have hn := ha.eq_none (List.cons_ne_nil _ _)
      rw [given_push, result?_push_eq_none_iff hv hr] at hn
      rw [List.dropLast_cons_cons]
      intro other ho
      rcases List.mem_cons.mp ho with rfl | ho
      · exact hn
      · exact ih (hv.push hr _) other ho

end History

end ClientGen.Pager
