import ClientGen.Json.Token

namespace ClientGen.Json

open Text

inductive SpellsFraction : List Char → Prop
  | nil : SpellsFraction []
  | digits {digits : List Char} (hne : digits ≠ []) (h : ∀ c ∈ digits, c.isDigit) :
      SpellsFraction ('.' :: digits)

inductive SpellsExponent : List Char → Prop
  | nil : SpellsExponent []
  | digits {mark : Char} {sign digits : List Char} (hmark : mark = 'e' ∨ mark = 'E')
      (hsign : sign = [] ∨ sign = ['+'] ∨ sign = ['-']) (hne : digits ≠ [])
      (h : ∀ c ∈ digits, c.isDigit) : SpellsExponent (mark :: (sign ++ digits))

def signOf (negative : Bool) : List Char :=
  if negative then ['-'] else []

/-- The numerals of a number. Its whole part has no needless zero in front. -/
inductive SpellsNumber : List Char → Number → Prop
  | integer (negative : Bool) (n : Nat) :
      SpellsNumber (signOf negative ++ Nat.toDigits 10 n) (.integer negative n)
  | decimal (negative : Bool) (n : Nat) {fraction exponent : List Char}
      (hfraction : SpellsFraction fraction) (hexponent : SpellsExponent exponent)
      (hne : fraction ++ exponent ≠ []) :
      SpellsNumber (signOf negative ++ (Nat.toDigits 10 n ++ (fraction ++ exponent)))
        (.decimal (.ofList (signOf negative ++ (Nat.toDigits 10 n ++ (fraction ++ exponent)))))

def isWordPart (c : Char) : Bool :=
  c.isAlphanum || c == '-' || c == '+' || c == '.'

theorem isWordPart_of_isDigit {c : Char} (h : c.isDigit = true) : isWordPart c = true := by
  simp [isWordPart, Char.isAlphanum, h]

theorem isDigit_of_mem_toDigits {n : Nat} {c : Char} (h : c ∈ Nat.toDigits 10 n) : c.isDigit = true :=
  Nat.isDigit_of_mem_toDigits (by decide) (by decide) h

theorem head?_toDigits {n : Nat} (h : 0 < n) : (Nat.toDigits 10 n).head? ≠ some '0' := by
  induction n using Nat.strongRecOn with
  | ind n ih =>
    rw [Nat.toDigits_eq_if (by decide)]
    split
    · rename_i hlt
      have hdigit : ∀ n < 10, 0 < n → n.digitChar ≠ '0' := by decide
      simpa using hdigit n hlt h
    · have hrest := ih (n / 10) (by omega) (by omega)
      obtain ⟨c, digits, hdigits⟩ :=
        List.exists_cons_of_ne_nil (@Nat.toDigits_ne_nil (n / 10) 10)
      rw [hdigits] at hrest ⊢
      exact hrest

theorem not_needless_toDigits (n : Nat) :
    ((Nat.toDigits 10 n).head? == some '0' && (Nat.toDigits 10 n).length != 1) = false := by
  obtain rfl | hn := Nat.eq_zero_or_pos n
  · rfl
  · rw [beq_eq_false_iff_ne.mpr (head?_toDigits hn), Bool.false_and]

theorem takeWhile_digits {digits rest : List Char} (h : ∀ c ∈ digits, c.isDigit)
    (hrest : rest.head?.any Char.isDigit = false) :
    (digits ++ rest).takeWhile Char.isDigit = digits ∧
      (digits ++ rest).dropWhile Char.isDigit = rest := by
  rw [List.takeWhile_append_of_pos h, List.dropWhile_append_of_pos h]
  cases rest with
  | nil => simp
  | cons c rest =>
    have hc : c.isDigit = false := hrest
    simp [hc]

theorem isDigits_of_forall {digits : List Char} (hne : digits ≠ []) (h : ∀ c ∈ digits, c.isDigit) :
    isDigits digits = true := by
  rw [isDigits, List.all_eq_true.mpr h, List.isEmpty_eq_false_iff.mpr hne]
  rfl

namespace SpellsExponent

variable {exponent : List Char}

theorem head? (h : SpellsExponent exponent) : exponent.head?.any Char.isDigit = false := by
  cases h with
  | nil => rfl
  | digits hmark _ _ _ => obtain rfl | rfl := hmark <;> rfl

theorem exponent? (h : SpellsExponent exponent) : (exponent? exponent).isSome = true := by
  cases h with
  | nil => rfl
  | @digits mark sign digits hmark hsign hne hdigits =>
    have hvalid := isDigits_of_forall hne hdigits
    have hinteger : (integer? (sign ++ digits)).isSome = true := by
      obtain rfl | rfl | rfl := hsign
      · obtain ⟨c, digits, rfl⟩ := List.exists_cons_of_ne_nil hne
        have hc := hdigits c List.mem_cons_self
        rw [List.nil_append, integer?, natural?, if_pos hvalid]
        · rfl
        · rintro rest ⟨⟩
          exact absurd hc (by decide)
        · rintro rest ⟨⟩
          exact absurd hc (by decide)
      · rw [List.singleton_append, integer?, natural?, if_pos hvalid]
        · rfl
        · rintro rest ⟨⟩
      · rw [List.singleton_append, integer?, if_pos hvalid]
        rfl
    rw [Text.exponent?, if_pos (by simpa using hmark), hinteger]

end SpellsExponent

theorem isTail_of_spells {fraction exponent : List Char} (hfraction : SpellsFraction fraction)
    (hexponent : SpellsExponent exponent) : isTail (fraction ++ exponent) = true := by
  cases hfraction with
  | nil =>
    rw [List.nil_append, isTail]
    · exact hexponent.exponent?
    · rintro rest rfl
      cases hexponent with
      | digits hmark _ _ _ => exact absurd hmark (by decide)
  | digits hne hdigits =>
    obtain ⟨htake, hdrop⟩ := takeWhile_digits hdigits hexponent.head?
    rw [List.cons_append, isTail, htake, hdrop, isDigits_of_forall hne hdigits, hexponent.exponent?]
    rfl

/-- A numeral is read by its parts: the sign, the whole part and what follows. -/
theorem Number.read?_append (negative : Bool) (n : Nat) {tail : List Char}
    (hhead : tail.head?.any Char.isDigit = false) (htail : isTail tail = true) :
    Number.read? (signOf negative ++ (Nat.toDigits 10 n ++ tail)) =
      if tail.isEmpty then some (.integer negative n)
      else some (.decimal (.ofList (signOf negative ++ (Nat.toDigits 10 n ++ tail)))) := by
  have hdigits : ∀ c ∈ Nat.toDigits 10 n, c.isDigit := fun c => isDigit_of_mem_toDigits
  have hvalue : digitsValue (Nat.toDigits 10 n) = n :=
    Nat.ofDigitChars_toDigits (by decide) (by decide)
  have hwhole : (Nat.toDigits 10 n).isEmpty = false :=
    List.isEmpty_eq_false_iff.mpr Nat.toDigits_ne_nil
  obtain ⟨htake, hdrop⟩ := takeWhile_digits hdigits hhead
  cases negative with
  | true =>
    simp only [signOf, if_true, List.singleton_append, Number.read?, htake, hdrop, hwhole,
      not_needless_toDigits, htail, hvalue]
    rfl
  | false =>
    obtain ⟨c, rest, hcons⟩ := List.exists_cons_of_ne_nil (@Nat.toDigits_ne_nil n 10)
    have hminus : c ≠ '-' := by
      rintro rfl
      exact absurd (hdigits '-' (by rw [hcons]; exact List.mem_cons_self)) (by decide)
    unfold Number.read?
    split
    rename_i negative unsigned hsign
    split at hsign
    · rename_i hnumeral
      rw [hcons] at hnumeral
      exact absurd (List.cons.inj hnumeral).1 hminus
    · cases hsign
      simp only [signOf, Bool.false_eq_true, if_false, List.nil_append, htake, hdrop, hwhole,
        not_needless_toDigits, htail, hvalue]
      rfl

namespace SpellsNumber

variable {word : List Char} {number : Number}

theorem read? (h : SpellsNumber word number) : Number.read? word = some number := by
  cases h with
  | integer negative n =>
    have hread := @Number.read?_append negative n [] rfl rfl
    rwa [List.append_nil] at hread
  | @decimal negative n fraction exponent hfraction hexponent hne =>
    have hhead : (fraction ++ exponent).head?.any Char.isDigit = false := by
      cases hfraction with
      | nil => exact hexponent.head?
      | digits _ _ => rfl
    rw [Number.read?_append negative n hhead (isTail_of_spells hfraction hexponent), if_neg]
    simpa using hne

theorem exists_cons (h : SpellsNumber word number) :
    ∃ c rest, word = c :: rest ∧ (c = '-' ∨ c.isDigit = true) := by
  have hwhole (negative : Bool) (n : Nat) (tail : List Char) :
      ∃ c rest, signOf negative ++ (Nat.toDigits 10 n ++ tail) = c :: rest ∧
        (c = '-' ∨ c.isDigit = true) := by
    cases negative with
    | true => exact ⟨_, _, rfl, .inl rfl⟩
    | false =>
      obtain ⟨c, rest, hcons⟩ := List.exists_cons_of_ne_nil (@Nat.toDigits_ne_nil n 10)
      have hc : c ∈ Nat.toDigits 10 n := by
        rw [hcons]
        exact List.mem_cons_self
      exact ⟨c, rest ++ tail, by rw [hcons]; rfl, .inr (isDigit_of_mem_toDigits hc)⟩
  cases h with
  | integer negative n =>
    have hnumeral := hwhole negative n []
    rwa [List.append_nil] at hnumeral
  | decimal negative n _ _ _ => exact hwhole negative n _

theorem isWordPart_of_mem (h : SpellsNumber word number) : ∀ c ∈ word, isWordPart c := by
  have hsign (negative : Bool) : ∀ c ∈ signOf negative, isWordPart c = true := by
    cases negative <;> exact List.all_eq_true.mp rfl
  have hdigits (n : Nat) : ∀ c ∈ Nat.toDigits 10 n, isWordPart c = true :=
    fun c hc => isWordPart_of_isDigit (isDigit_of_mem_toDigits hc)
  cases h with
  | integer negative n => exact List.forall_mem_append.mpr ⟨hsign negative, hdigits n⟩
  | decimal negative n hfraction hexponent _ =>
    refine List.forall_mem_append.mpr ⟨hsign negative, List.forall_mem_append.mpr ⟨hdigits n,
      List.forall_mem_append.mpr ⟨?_, ?_⟩⟩⟩
    · cases hfraction with
      | nil => simp
      | digits _ h =>
        exact List.forall_mem_cons.mpr ⟨rfl, fun c hc => isWordPart_of_isDigit (h c hc)⟩
    · cases hexponent with
      | nil => simp
      | digits hmark hsign _ h =>
        refine List.forall_mem_cons.mpr ⟨by obtain rfl | rfl := hmark <;> rfl,
          List.forall_mem_append.mpr ⟨?_, fun c hc => isWordPart_of_isDigit (h c hc)⟩⟩
        obtain rfl | rfl | rfl := hsign <;> exact List.all_eq_true.mp rfl

end SpellsNumber

end ClientGen.Json
