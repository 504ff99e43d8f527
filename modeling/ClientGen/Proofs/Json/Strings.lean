import ClientGen.Json.Token
import ClientGen.Proofs.Text.Quoted

namespace ClientGen.Json

open Text

inductive SpellsDigit : Char → Nat → Prop
  | lower {n : Nat} (h : n < 16) : SpellsDigit n.digitChar n
  | upper {n : Nat} (h : n < 16) : SpellsDigit n.digitChar.toUpper n

/-- What stands for one unit of a string: a character itself, a letter or mark after a backslash,
or four hexadecimal digits. -/
inductive SpellsUnit : List Char → Nat → Prop
  | plain {c : Char} (hquote : c ≠ '"') (hescape : c ≠ '\\') (hcontrol : 0x20 ≤ c.toNat) :
      SpellsUnit [c] c.toNat
  | escape {letter c : Char}
      (h : (letter, c) ∈ [('"', '"'), ('\\', '\\'), ('/', '/'), ('b', '\x08'), ('f', '\x0c'),
        ('n', '\n'), ('r', '\r'), ('t', '\t')]) :
      SpellsUnit ['\\', letter] c.toNat
  | code {a b c d : Char} {i j k l : Nat} (ha : SpellsDigit a i) (hb : SpellsDigit b j)
      (hc : SpellsDigit c k) (hd : SpellsDigit d l) :
      SpellsUnit ['\\', 'u', a, b, c, d] (0x1000 * i + 0x100 * j + 0x10 * k + l)

inductive SpellsUnits : List Char → List Nat → Prop
  | nil : SpellsUnits [] []
  | cons {text rest : List Char} {unit : Nat} {units : List Nat} (h : SpellsUnit text unit)
      (hrest : SpellsUnits rest units) : SpellsUnits (text ++ rest) (unit :: units)

/-- The text that units stand for. A character beyond the first `0x10000` may be one unit or a pair
of surrogates. -/
inductive Denotes : List Nat → List Char → Prop
  | nil : Denotes [] []
  | one {c : Char} {units : List Nat} {chars : List Char} (h : Denotes units chars) :
      Denotes (c.toNat :: units) (c :: chars)
  | pair {c : Char} {high low : Nat} {units : List Nat} {chars : List Char}
      (hhigh : 0xD800 ≤ high ∧ high < 0xDC00) (hlow : 0xDC00 ≤ low ∧ low < 0xE000)
      (hc : c.toNat = 0x10000 + (high - 0xD800) * 0x400 + (low - 0xDC00))
      (h : Denotes units chars) : Denotes (high :: low :: units) (c :: chars)

inductive SpellsString : List Char → Option String → Prop
  | text {body : List Char} {units : List Nat} {text : String} (hunits : SpellsUnits body units)
      (htext : Denotes units text.toList) : SpellsString ('"' :: (body ++ ['"'])) (some text)
  | broken {body : List Char} {units : List Nat} (hunits : SpellsUnits body units)
      (hnone : ∀ chars, ¬Denotes units chars) : SpellsString ('"' :: (body ++ ['"'])) none

theorem SpellsDigit.hexDigit? {c : Char} {n : Nat} (h : SpellsDigit c n) : hexDigit? c = some n := by
  have hupper : ∀ n < 16, Text.hexDigit? n.digitChar.toUpper = some n := by decide
  cases h with
  | lower h => exact hexDigit?_digitChar n h
  | upper h => exact hupper n h

theorem SpellsDigit.lt {c : Char} {n : Nat} (h : SpellsDigit c n) : n < 16 := by
  cases h <;> assumption

theorem toNat_bounds (c : Char) : c.toNat < 0xD800 ∨ 0xDFFF < c.toNat ∧ c.toNat < 0x110000 :=
  c.valid

theorem SpellsUnit.lt {text : List Char} {unit : Nat} (h : SpellsUnit text unit) :
    unit < 0x110000 := by
  cases h with
  | @plain c _ _ _ | @escape _ c _ =>
    have := toNat_bounds c
    omega
  | code ha hb hc hd =>
    have := ha.lt
    have := hb.lt
    have := hc.lt
    have := hd.lt
    omega

theorem SpellsUnits.lt {text : List Char} {units : List Nat} (h : SpellsUnits text units) :
    ∀ unit ∈ units, unit < 0x110000 := by
  induction h with
  | nil => simp
  | cons h _ ih => exact List.forall_mem_cons.mpr ⟨h.lt, ih⟩

theorem toNat_ofNat {n : Nat} (h : n < 0xD800 ∨ 0xDFFF < n ∧ n < 0x110000) :
    (Char.ofNat n).toNat = n := by
  rw [Char.ofNat, dif_pos h]
  rfl

theorem not_isSurrogate_iff {unit : Nat} :
    ¬(isHigh unit || isLow unit) = true ↔ unit < 0xD800 ∨ 0xDFFF < unit := by
  simp only [isHigh, isLow, Bool.or_eq_true, Bool.and_eq_true, decide_eq_true_eq]
  omega

theorem isPair_iff {high low : Nat} :
    (isHigh high && isLow low) = true ↔
      (0xD800 ≤ high ∧ high < 0xDC00) ∧ 0xDC00 ≤ low ∧ low < 0xE000 := by
  simp only [isHigh, isLow, Bool.and_eq_true, decide_eq_true_eq]

theorem charsOfUnits_pair {high low : Nat} (units : List Nat)
    (h : (0xD800 ≤ high ∧ high < 0xDC00) ∧ 0xDC00 ≤ low ∧ low < 0xE000) :
    charsOfUnits (high :: low :: units) =
      (charsOfUnits units).map
        (Char.ofNat (0x10000 + (high - 0xD800) * 0x400 + (low - 0xDC00)) :: ·) := by
  rw [charsOfUnits, if_pos (isPair_iff.mpr h)]

theorem charsOfUnits_one {unit : Nat} (units : List Nat) (h : unit < 0xD800 ∨ 0xDFFF < unit) :
    charsOfUnits (unit :: units) = (charsOfUnits units).map (Char.ofNat unit :: ·) := by
  have hnone := not_isSurrogate_iff.mpr h
  cases units with
  | nil => simp only [charsOfUnits, if_neg hnone, Option.map_some]
  | cons next units =>
    have hpair : ¬(isHigh unit && isLow next) = true := by
      rw [isPair_iff]
      omega
    rw [charsOfUnits, if_neg hpair, if_neg hnone]

theorem Denotes.scalar {unit : Nat} {units : List Nat} {chars : List Char}
    (h : unit < 0xD800 ∨ 0xDFFF < unit ∧ unit < 0x110000) (hrest : Denotes units chars) :
    Denotes (unit :: units) (Char.ofNat unit :: chars) := by
  have hone := @Denotes.one (Char.ofNat unit) units chars hrest
  rwa [toNat_ofNat h] at hone

theorem charsOfUnits_of_denotes {units : List Nat} {chars : List Char} (h : Denotes units chars) :
    charsOfUnits units = some chars := by
  induction h with
  | nil => rfl
  | @one c units chars h ih =>
    have := toNat_bounds c
    rw [charsOfUnits_one _ (by omega), ih, Char.ofNat_toNat, Option.map_some]
  | @pair c high low units chars hhigh hlow hc h ih =>
    rw [charsOfUnits_pair _ ⟨hhigh, hlow⟩, ih, ← hc, Char.ofNat_toNat, Option.map_some]

theorem denotes_of_charsOfUnits {units : List Nat} {chars : List Char}
    (hlt : ∀ unit ∈ units, unit < 0x110000) (h : charsOfUnits units = some chars) :
    Denotes units chars := by
  induction units using charsOfUnits.induct generalizing chars with
  | case1 =>
    cases h
    exact .nil
  | case2 unit hsurrogate => simp [charsOfUnits, hsurrogate] at h
  | case3 unit hscalar =>
    have hbounds := not_isSurrogate_iff.mp hscalar
    have := hlt unit List.mem_cons_self
    rw [charsOfUnits_one _ hbounds] at h
    cases h
    exact .scalar (by omega) .nil
  | case4 high low units hpair ih =>
    obtain ⟨hhigh, hlow⟩ := isPair_iff.mp hpair
    have hrest := (List.forall_mem_cons.mp (List.forall_mem_cons.mp hlt).2).2
    rw [charsOfUnits_pair _ ⟨hhigh, hlow⟩] at h
    obtain ⟨rest, hchars, rfl⟩ := Option.map_eq_some_iff.mp h
    exact .pair hhigh hlow (toNat_ofNat (by omega)) (ih hrest hchars)
  | case5 unit next units hpair hsurrogate => simp [charsOfUnits, hpair, hsurrogate] at h
  | case6 unit next units hpair hscalar ih =>
    have hbounds := not_isSurrogate_iff.mp hscalar
    obtain ⟨hunit, hrest⟩ := List.forall_mem_cons.mp hlt
    rw [charsOfUnits_one _ hbounds] at h
    obtain ⟨rest, hchars, rfl⟩ := Option.map_eq_some_iff.mp h
    exact .scalar (by omega) (ih hrest hchars)

end ClientGen.Json
