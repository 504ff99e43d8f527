import ClientGen.Proofs.Json.Numbers
import ClientGen.Proofs.Json.Strings

namespace ClientGen.Json

inductive SpellsBare : List Char → Json → Prop
  | null : SpellsBare ['n', 'u', 'l', 'l'] .null
  | true : SpellsBare ['t', 'r', 'u', 'e'] (.bool true)
  | false : SpellsBare ['f', 'a', 'l', 's', 'e'] (.bool false)
  | number {word : List Char} {number : Number} (h : SpellsNumber word number) :
      SpellsBare word (.number number)

def spaces : List Char := [' ', '\n', '\t', '\r']

def marks : List (Char × Token) :=
  [('[', .beginArray), (']', .endArray), ('\x7b', .beginObject), ('\x7d', .endObject), (':', .colon),
    (',', .comma)]

def EndsWord (text : List Char) : Prop :=
  ∀ c ∈ text.head?, c ∈ spaces ∨ c ∈ marks.map Prod.fst

/-- The texts of tokens: these in turn, with any white space around them. -/
inductive SpellsTokens : List Char → List Token → Prop
  | nil : SpellsTokens [] []
  | space {c : Char} {text : List Char} {tokens : List Token} (hc : c ∈ spaces)
      (h : SpellsTokens text tokens) : SpellsTokens (c :: text) tokens
  | mark {c : Char} {text : List Char} {token : Token} {tokens : List Token}
      (hc : (c, token) ∈ marks) (h : SpellsTokens text tokens) :
      SpellsTokens (c :: text) (token :: tokens)
  | string {quoted text : List Char} {value : Option String} {tokens : List Token}
      (hquoted : SpellsString quoted value) (h : SpellsTokens text tokens) :
      SpellsTokens (quoted ++ text) (.atom (.string value) :: tokens)
  | bare {word text : List Char} {value : Json} {tokens : List Token}
      (hword : SpellsBare word value) (hend : EndsWord text) (h : SpellsTokens text tokens) :
      SpellsTokens (word ++ text) (.atom value :: tokens)

theorem isSpace_of_mem {c : Char} (h : c ∈ spaces) : isSpace c = true := by
  simp only [spaces, List.mem_cons, List.not_mem_nil, or_false] at h
  obtain rfl | rfl | rfl | rfl := h <;> rfl

theorem punctuation_of_mem {c : Char} {token : Token} (h : (c, token) ∈ marks) :
    punctuation c = some token := by
  simp only [marks, List.mem_cons, Prod.mk.injEq, List.not_mem_nil, or_false] at h
  obtain ⟨rfl, rfl⟩ | ⟨rfl, rfl⟩ | ⟨rfl, rfl⟩ | ⟨rfl, rfl⟩ | ⟨rfl, rfl⟩ | ⟨rfl, rfl⟩ := h <;> rfl

theorem not_isSpace_of_mem {c : Char} {token : Token} (h : (c, token) ∈ marks) :
    isSpace c = false := by
  simp only [marks, List.mem_cons, Prod.mk.injEq, List.not_mem_nil, or_false] at h
  obtain ⟨rfl, _⟩ | ⟨rfl, _⟩ | ⟨rfl, _⟩ | ⟨rfl, _⟩ | ⟨rfl, _⟩ | ⟨rfl, _⟩ := h <;> rfl

theorem isSpace_of_isWordPart {c : Char} (h : isWordPart c = true) : isSpace c = false := by
  rw [← Bool.not_eq_true]
  intro hspace
  simp only [isSpace, Bool.or_eq_true, beq_iff_eq] at hspace
  obtain ((rfl | rfl) | rfl) | rfl := hspace <;> exact absurd h (by decide)

theorem punctuation_of_isWordPart {c : Char} (h : isWordPart c = true) : punctuation c = none := by
  unfold punctuation
  split
  all_goals first | rfl | exact absurd h (by decide)

namespace SpellsBare

variable {word : List Char} {value : Json}

theorem bare? (h : SpellsBare word value) : bare? word = some value := by
  cases h with
  | null | true | false => rfl
  | @number _ number h =>
    obtain ⟨c, rest, rfl, hc⟩ := h.exists_cons
    rw [Json.bare?, h.read?, Option.map_some]
    all_goals
      rintro ⟨⟩
      exact absurd hc (by decide)

theorem ne_nil (h : SpellsBare word value) : word ≠ [] := by
  cases h with
  | null | true | false => simp
  | number h =>
    obtain ⟨c, rest, rfl, _⟩ := h.exists_cons
    simp

theorem isWordPart_of_mem (h : SpellsBare word value) : ∀ c ∈ word, isWordPart c := by
  cases h with
  | null | true | false => exact List.all_eq_true.mp rfl
  | number h => exact h.isWordPart_of_mem

end SpellsBare

namespace Scanner

def tokensFrom (scanner : Scanner) (text : List Char) : Option (List Token) :=
  (text.foldlM step scanner).bind finish

theorem tokensFrom_cons (scanner : Scanner) (c : Char) (text : List Char) :
    tokensFrom scanner (c :: text) = (step scanner c).bind fun next => tokensFrom next text := by
  rw [tokensFrom, List.foldlM_cons, Option.bind_eq_bind, Option.bind_assoc]
  rfl

variable {text rest quoted word : List Char} {tokens before : List Token}

theorem tokensFrom_unit {unit : Nat} (read : List Nat) (h : SpellsUnit text unit) :
    tokensFrom ⟨before, .quoted read⟩ (text ++ rest) =
      tokensFrom ⟨before, .quoted (unit :: read)⟩ rest := by
  cases h with
  | plain hquote hescape hcontrol =>
    rw [List.singleton_append, tokensFrom_cons, step, if_neg hquote, if_neg hescape,
      if_neg (Nat.not_lt.mpr hcontrol), Option.bind_some]
  | escape h =>
    simp only [List.mem_cons, Prod.mk.injEq, List.not_mem_nil, or_false] at h
    obtain ⟨rfl, rfl⟩ | ⟨rfl, rfl⟩ | ⟨rfl, rfl⟩ | ⟨rfl, rfl⟩ | ⟨rfl, rfl⟩ | ⟨rfl, rfl⟩ |
      ⟨rfl, rfl⟩ | ⟨rfl, rfl⟩ := h <;> rfl
  | @code a b c d i j k l ha hb hc hd =>
    have hvalue : 16 * (16 * (16 * (16 * 0 + i) + j) + k) + l =
        0x1000 * i + 0x100 * j + 0x10 * k + l := by omega
    rw [← hvalue]
    simp [tokensFrom_cons, step, ha.hexDigit?, hb.hexDigit?, hc.hexDigit?, hd.hexDigit?]

theorem tokensFrom_units {units : List Nat} (read : List Nat) (h : SpellsUnits text units) :
    tokensFrom ⟨before, .quoted read⟩ (text ++ rest) =
      tokensFrom ⟨before, .quoted (units.reverse ++ read)⟩ rest := by
  induction h generalizing read with
  | nil => rfl
  | cons h _ ih =>
    rw [List.append_assoc, tokensFrom_unit read h, ih, List.reverse_cons, List.append_assoc,
      List.singleton_append]

theorem tokensFrom_quotes {units : List Nat} (h : SpellsUnits text units) :
    tokensFrom ⟨before, .between⟩ ('"' :: (text ++ ['"']) ++ rest) =
      tokensFrom ⟨.atom (.string ((charsOfUnits units).map .ofList)) :: before, .between⟩ rest := by
  rw [List.cons_append, List.append_assoc, tokensFrom_cons]
  refine (tokensFrom_units [] h).trans ?_
  rw [List.append_nil, List.singleton_append, tokensFrom_cons, step, if_pos rfl,
    List.reverse_reverse, Option.bind_some]

theorem tokensFrom_string {value : Option String} (h : SpellsString quoted value) :
    tokensFrom ⟨before, .between⟩ (quoted ++ rest) =
      tokensFrom ⟨.atom (.string value) :: before, .between⟩ rest := by
  cases h with
  | text hunits htext =>
    rw [tokensFrom_quotes hunits, charsOfUnits_of_denotes htext, Option.map_some,
      String.ofList_toList]
  | @broken body units hunits hnone =>
    have hchars : charsOfUnits units = none := by
      cases hchars : charsOfUnits units with
      | none => rfl
      | some chars => exact absurd (denotes_of_charsOfUnits hunits.lt hchars) (hnone chars)
    rw [tokensFrom_quotes hunits, hchars, Option.map_none]

theorem tokensFrom_word (read : List Char) (h : ∀ c ∈ word, isWordPart c) :
    tokensFrom ⟨before, .bare read⟩ (word ++ rest) =
      tokensFrom ⟨before, .bare (word.reverse ++ read)⟩ rest := by
  induction word generalizing read with
  | nil => rfl
  | cons c word ih =>
    obtain ⟨hc, hword⟩ := List.forall_mem_cons.mp h
    rw [List.cons_append, tokensFrom_cons, step, isSpace_of_isWordPart hc,
      punctuation_of_isWordPart hc]
    simp [ih _ hword]

/-- A word without quotes is over at the end of the text, or at white space or a mark. -/
theorem tokensFrom_end {value : Json} {read : List Char} (hvalue : bare? read.reverse = some value)
    (h : EndsWord rest) :
    tokensFrom ⟨before, .bare read⟩ rest = tokensFrom ⟨.atom value :: before, .between⟩ rest := by
  cases rest with
  | nil => simp [tokensFrom, finish, hvalue]
  | cons c rest =>
    have hc : (isSpace c || (punctuation c).isSome) = true := by
      obtain hc | hc := h c rfl
      · rw [isSpace_of_mem hc, Bool.true_or]
      · obtain ⟨⟨_, token⟩, hmem, rfl⟩ := List.mem_map.mp hc
        rw [punctuation_of_mem hmem, Option.isSome_some, Bool.or_true]
    rw [tokensFrom_cons, tokensFrom_cons]
    simp only [step, if_pos hc, hvalue]
    rfl

theorem tokensFrom_bare {value : Json} (h : SpellsBare word value) (hend : EndsWord rest) :
    tokensFrom ⟨before, .between⟩ (word ++ rest) =
      tokensFrom ⟨.atom value :: before, .between⟩ rest := by
  have hbare := h.bare?
  have hparts := h.isWordPart_of_mem
  obtain ⟨c, word, rfl⟩ := List.exists_cons_of_ne_nil h.ne_nil
  obtain ⟨hc, hword⟩ := List.forall_mem_cons.mp hparts
  have hquote : c ≠ '"' := by
    rintro rfl
    exact absurd hc (by decide)
  have hbegin : begin before c = ⟨before, .bare [c]⟩ := by
    rw [begin, isSpace_of_isWordPart hc, punctuation_of_isWordPart hc]
    simp [hquote]
  rw [List.cons_append, tokensFrom_cons, step, Option.bind_some, hbegin, tokensFrom_word [c] hword]
  exact tokensFrom_end (by simpa using hbare) hend

/-- The scanner finds the tokens of a text. -/
theorem tokensFrom_tokens (h : SpellsTokens text tokens) (before : List Token) :
    tokensFrom ⟨before, .between⟩ text = some (before.reverse ++ tokens) := by
  induction h generalizing before with
  | nil => simp [tokensFrom, finish]
  | space hc _ ih =>
    rw [tokensFrom_cons, step, begin, if_pos (isSpace_of_mem hc), Option.bind_some, ih]
  | @mark c text token tokens hc _ ih =>
    rw [tokensFrom_cons, step, begin, not_isSpace_of_mem hc, punctuation_of_mem hc]
    simp [ih]
  | string hquoted _ ih =>
    rw [tokensFrom_string hquoted, ih, List.reverse_cons, List.append_assoc, List.singleton_append]
  | bare hword hend _ ih =>
    rw [tokensFrom_bare hword hend, ih, List.reverse_cons, List.append_assoc, List.singleton_append]

end Scanner

theorem tokens?_of_spells {text : List Char} {tokens : List Token} (h : SpellsTokens text tokens) :
    tokens? text = some tokens :=
  Scanner.tokensFrom_tokens h []

end ClientGen.Json
