import ClientGen.Proofs.Text.Quoted
import ClientGen.Proofs.Wire.Primitives
import ClientGen.Text.Escaped

namespace ClientGen.Text

open Wire (Bytes)
open Escaped (octalDigit?)

namespace Literal

def shortEscapes : List (Char × UInt8) := [
  ('a', 7), ('b', 8), ('f', 12), ('n', 10), ('r', 13), ('t', 9), ('v', 11), ('\\', 92), ('"', 34)]

def codeWidths : List (Char × Nat) := [('u', 4), ('U', 8)]

inductive Escape : List Char → Bytes → Prop
  | short {c : Char} {b : UInt8} (h : (c, b) ∈ shortEscapes) : Escape [c] [b]
  | octal {c d e : Char} {i j k : UInt8} (hc : octalDigit? c = some i) (hd : octalDigit? d = some j)
      (he : octalDigit? e = some k) (hbyte : 64 * i.toNat + 8 * j.toNat + k.toNat < 256) :
      Escape [c, d, e] [64 * i + 8 * j + k]
  | hexadecimal {c d : Char} {i j : Nat} (hc : hexDigit? c = some i) (hd : hexDigit? d = some j) :
      Escape ['x', c, d] [.ofNat (16 * i + j)]
  | code {c : Char} {digits : List Char} (hc : (c, digits.length) ∈ codeWidths)
      (hdigits : ∀ d ∈ digits, (hexDigit? d).isSome) (hvalid : (hexValue digits).isValidChar) :
      Escape (c :: digits) (String.utf8EncodeChar (.ofNat (hexValue digits)))

/-- What stands between the quotes of an interpreted string of Go, and the bytes of its value. -/
inductive Means : List Char → Bytes → Prop
  | nil : Means [] []
  | plain {c : Char} {rest : List Char} {bytes : Bytes} (hline : c ≠ '\n') (hquote : c ≠ '"')
      (hslash : c ≠ '\\') (hrest : Means rest bytes) :
      Means (c :: rest) (String.utf8EncodeChar c ++ bytes)
  | escape {text rest : List Char} {value bytes : Bytes} (h : Escape text value)
      (hrest : Means rest bytes) : Means ('\\' :: (text ++ rest)) (value ++ bytes)

variable {c : Char} {rest text : List Char} {bytes : Bytes}

theorem eq_of_mem_shortEscapes {b b' : UInt8} (h : (c, b) ∈ shortEscapes)
    (h' : (c, b') ∈ shortEscapes) : b = b' := by
  have hfun : ∀ p ∈ shortEscapes, ∀ q ∈ shortEscapes, p.1 = q.1 → p.2 = q.2 := by decide
  exact hfun _ h _ h' rfl

/-- What follows the backslash of a short escape begins no other escape. -/
theorem begins_of_mem_shortEscapes {b : UInt8} (h : (c, b) ∈ shortEscapes) :
    octalDigit? c = none ∧ c ≠ 'x' ∧ ∀ width, (c, width) ∉ codeWidths := by
  have hall : ∀ p ∈ shortEscapes, octalDigit? p.1 = none ∧ p.1 ≠ 'x' ∧ ∀ q ∈ codeWidths,
      p.1 ≠ q.1 := by
    decide
  obtain ⟨hoctal, hx, hcode⟩ := hall _ h
  exact ⟨hoctal, hx, fun width hc => hcode _ hc rfl⟩

theorem Means.of_plain (h : Means (c :: rest) bytes) (hslash : c ≠ '\\') :
    ∃ more, bytes = String.utf8EncodeChar c ++ more ∧ Means rest more := by
  cases h with
  | plain _ _ _ hrest => exact ⟨_, rfl, hrest⟩
  | escape => exact absurd rfl hslash

theorem Means.of_escape (h : Means ('\\' :: text) bytes) : ∃ front value rest more,
    text = front ++ rest ∧ bytes = value ++ more ∧ Escape front value ∧ Means rest more := by
  cases h with
  | plain _ _ hslash => exact absurd rfl hslash
  | escape hescape hrest => exact ⟨_, _, _, _, rfl, rfl, hescape, hrest⟩

theorem Means.of_short {b : UInt8} (h : Means ('\\' :: c :: rest) bytes)
    (hc : (c, b) ∈ shortEscapes) : ∃ more, bytes = b :: more ∧ Means rest more := by
  obtain ⟨hoctal, hx, hcode⟩ := begins_of_mem_shortEscapes hc
  obtain ⟨front, value, _, more, htext, rfl, hescape, hrest⟩ := h.of_escape
  cases hescape with
  | short hd =>
    cases htext
    rw [eq_of_mem_shortEscapes hc hd]
    exact ⟨more, rfl, hrest⟩
  | octal hd =>
    cases htext
    rw [hoctal] at hd
    cases hd
  | hexadecimal =>
    cases htext
    exact absurd rfl hx
  | code hd =>
    cases htext
    exact absurd hd (hcode _)

/-- A NUL is written as one octal digit, where three have to stand. -/
theorem Means.of_nul (h : Means ('\\' :: '0' :: rest) bytes) : ∃ d e b after more,
    rest = d :: e :: after ∧ (octalDigit? d).isSome ∧ (octalDigit? e).isSome ∧ bytes = b :: more ∧
      Means after more := by
  obtain ⟨front, value, after, more, htext, rfl, hescape, hrest⟩ := h.of_escape
  cases hescape with
  | short hc =>
    cases htext
    exact absurd (begins_of_mem_shortEscapes hc).1 (by decide)
  | octal _ hd he =>
    cases htext
    exact ⟨_, _, _, after, more, rfl, Option.isSome_of_eq_some hd,
      Option.isSome_of_eq_some he, rfl, hrest⟩
  | hexadecimal => simp at htext
  | code hc =>
    cases htext
    simp [codeWidths] at hc

/-- No escape has a brace where its first digit has to stand. -/
theorem not_means_brace : ¬Means ('\\' :: 'u' :: '\x7b' :: rest) bytes := by
  intro h
  obtain ⟨front, value, after, more, htext, rfl, hescape, _⟩ := h.of_escape
  cases hescape with
  | short hc =>
    cases htext
    exact absurd (by decide) ((begins_of_mem_shortEscapes hc).2.2 4)
  | octal hc =>
    cases htext
    cases hc
  | hexadecimal => simp at htext
  | @code c digits hc hdigits =>
    obtain ⟨rfl, hrest⟩ : 'u' = c ∧ '\x7b' :: rest = digits ++ after := by simpa using htext
    cases digits with
    | nil => exact absurd hc (by decide)
    | cons d digits =>
      cases hrest
      exact absurd (hdigits _ List.mem_cons_self) (by decide)

def isShared (c : Char) : Bool :=
  ['\t', '\r', '\n'].contains c || (isPrintable c && !isExtending c)

inductive Written (c : Char) : List Char → Prop
  | nul (hc : c = '\x00') : Written c ['\\', '0']
  | short {d : Char} {b : UInt8} (hd : (d, b) ∈ shortEscapes) (hb : String.utf8EncodeChar c = [b])
      (hshared : isShared c) : Written c ['\\', d]
  | code {digits : List Char} (hshared : isShared c = false) :
      Written c ('\\' :: 'u' :: '\x7b' :: digits)
  | self (hshared : isShared c) (hline : c ≠ '\n') (hquote : c ≠ '"') (hslash : c ≠ '\\') :
      Written c [c]

theorem written_escape (c : Char) : Written c (Quoted.escape c) := by
  unfold Quoted.escape
  split_ifs with h0 ht hr hn hq hb hu
  · exact .nul h0
  · subst c
    exact .short (b := 9) (by decide) (by decide) (by decide)
  · subst c
    exact .short (b := 13) (by decide) (by decide) (by decide)
  · subst c
    exact .short (b := 10) (by decide) (by decide) (by decide)
  · subst c
    exact .short (b := 34) (by decide) (by decide) (by decide +kernel)
  · subst c
    exact .short (b := 92) (by decide) (by decide) (by decide +kernel)
  · refine .code ?_
    rw [Bool.or_eq_true, Bool.not_eq_true'] at hu
    rcases hu with hu | hu <;> simp [isShared, ht, hr, hn, hu]
  · refine .self ?_ hn hq hb
    simpa [isShared, and_comm, ht, hr, hn] using hu

/-- Characters that are written as Go reads them can stand anywhere. -/
theorem Means.escape_append (hc : isShared c) (h : Means rest bytes) :
    Means (Quoted.escape c ++ rest) (String.utf8EncodeChar c ++ bytes) := by
  have hwritten := written_escape c
  generalize Quoted.escape c = text at hwritten
  cases hwritten with
  | nul h0 =>
    subst c
    cases hc
  | short hd hb =>
    rw [hb]
    exact .escape (.short hd) h
  | code hshared =>
    rw [hshared] at hc
    cases hc
  | self _ hline hquote hslash => exact .plain hline hquote hslash h

theorem means_flatMap_escape (h : ∀ c ∈ text, isShared c) :
    Means (text.flatMap Quoted.escape) (text.flatMap String.utf8EncodeChar) := by
  induction text with
  | nil => exact .nil
  | cons c text ih =>
    rw [List.flatMap_cons, List.flatMap_cons]
    exact (ih fun d hd => h d (List.mem_cons_of_mem _ hd)).escape_append (h c List.mem_cons_self)

/-- An octal digit in front comes from the text itself. -/
theorem eq_cons_of_octalDigit (h : text.flatMap Quoted.escape = c :: rest)
    (hc : (octalDigit? c).isSome) :
    isShared c ∧ ∃ more, text = c :: more ∧ rest = more.flatMap Quoted.escape := by
  have hslash : octalDigit? '\\' = none := by decide
  cases text with
  | nil => cases h
  | cons d text =>
    rw [List.flatMap_cons] at h
    have hwritten := written_escape d
    generalize Quoted.escape d = front at hwritten h
    cases hwritten with
    | nul | short | code =>
      cases h
      rw [hslash] at hc
      cases hc
    | self hshared =>
      cases h
      exact ⟨hshared, text, rfl, rfl⟩

/-- What a text is like for which something is written that means these bytes: Go reads all escapes,
or takes a NUL for the first digit of another character. The bytes are no more than those of the
text, and fewer if there is a NUL, which takes the two digits after it. -/
structure Bounds (text : List Char) (bytes : Bytes) : Prop where
  shared : ∀ c ∈ text, isShared c ∨ c = '\x00'
  le : bytes.length ≤ (text.flatMap String.utf8EncodeChar).length
  nul : bytes.length = (text.flatMap String.utf8EncodeChar).length → '\x00' ∉ text

theorem Bounds.nil : Bounds [] [] where
  shared := by simp
  le := Nat.le_refl _
  nul := by simp

theorem Bounds.cons (h : Bounds text bytes) (hc : isShared c) :
    Bounds (c :: text) (String.utf8EncodeChar c ++ bytes) where
  shared := List.forall_mem_cons.mpr ⟨.inl hc, h.shared⟩
  le := by
    rw [List.flatMap_cons, List.length_append, List.length_append]
    exact Nat.add_le_add_left h.le _
  nul heq := by
    rw [List.flatMap_cons, List.length_append, List.length_append] at heq
    rw [List.mem_cons, not_or]
    refine ⟨?_, h.nul (Nat.add_left_cancel heq)⟩
    rintro rfl
    cases hc

theorem Bounds.cons_nul {d e : Char} {b : UInt8} (h : Bounds text bytes) (hd : isShared d)
    (he : isShared e) : Bounds ('\x00' :: d :: e :: text) (b :: bytes) := by
  have hlt : (b :: bytes).length <
      (('\x00' :: d :: e :: text).flatMap String.utf8EncodeChar).length := by
    have hle := h.le
    have hd := d.utf8Size_pos
    have he := e.utf8Size_pos
    have hnul := '\x00'.utf8Size_pos
    simp only [List.flatMap_cons, List.length_append, List.length_cons, String.length_utf8EncodeChar]
    omega
  refine ⟨?_, Nat.le_of_lt hlt, fun heq => absurd heq (Nat.ne_of_lt hlt)⟩
  rw [List.forall_mem_cons, List.forall_mem_cons, List.forall_mem_cons]
  exact ⟨.inr rfl, .inl hd, .inl he, h.shared⟩

theorem bounds_of_means (h : Means (text.flatMap Quoted.escape) bytes) : Bounds text bytes := by
  -- a NUL takes characters after it away, so the induction is on how many are left
  induction hn : text.length using Nat.strongRecOn generalizing text bytes with
  | ind n ih =>
    cases text with
    | nil =>
      cases h
      exact .nil
    | cons c text =>
      rw [List.flatMap_cons] at h
      rw [List.length_cons] at hn
      have hwritten := written_escape c
      generalize Quoted.escape c = front at hwritten h
      cases hwritten with
      | nul h0 =>
        obtain ⟨d, e, b, after, more, hrest, hd, he, rfl, hafter⟩ := h.of_nul
        obtain ⟨hsharedD, tail, rfl, htail⟩ := eq_cons_of_octalDigit hrest hd
        obtain ⟨hsharedE, others, rfl, rfl⟩ := eq_cons_of_octalDigit htail.symm he
        simp only [List.length_cons] at hn
        rw [h0]
        exact (ih others.length (by omega) hafter rfl).cons_nul hsharedD hsharedE
      | short hd hb hc =>
        obtain ⟨more, rfl, hrest⟩ := h.of_short hd
        have hbounds := (ih text.length (by omega) hrest rfl).cons hc
        rwa [hb] at hbounds
      | code => exact absurd h not_means_brace
      | self hc _ _ hslash =>
        obtain ⟨more, rfl, hrest⟩ := h.of_plain hslash
        exact (ih text.length (by omega) hrest rfl).cons hc

end Literal

def IsLiteral (text : String) (bytes : Bytes) : Prop :=
  ∃ body, text.toList = '"' :: (body ++ ['"']) ∧ Literal.Means body bytes

theorem isLiteral_quoted_iff_means {text : String} {bytes : Bytes} :
    IsLiteral (quoted text) bytes ↔ Literal.Means (text.toList.flatMap Quoted.escape) bytes := by
  rw [IsLiteral, toList_quoted]
  constructor
  · rintro ⟨body, hbody, h⟩
    rwa [List.append_cancel_right (List.cons.inj hbody).2]
  · exact fun h => ⟨_, rfl, h⟩

theorem toUTF8_toList_eq (text : String) :
    text.toUTF8.toList = text.toList.flatMap String.utf8EncodeChar := by
  rw [Wire.toList_eq, String.toUTF8_eq_toByteArray, ← String.utf8Encode_toList, List.utf8Encode]
  simp

/-- A NUL and two digits after it are read together. -/
example : IsLiteral (quoted "\x0012") [10] := by
  have hescaped : "\x0012".toList.flatMap Quoted.escape = ['\\', '0', '1', '2'] := by decide +kernel
  rw [isLiteral_quoted_iff_means, hescaped]
  exact .escape (.octal (i := 0) (j := 1) (k := 2) rfl rfl rfl (by decide)) .nil

/-- A quoted text means the text in Go just if Go shares the ways in which its characters are
written. -/
theorem isLiteral_quoted_iff {text : String} :
    IsLiteral (quoted text) text.toUTF8.toList ↔ ∀ c ∈ text.toList, Literal.isShared c := by
  rw [isLiteral_quoted_iff_means, toUTF8_toList_eq]
  constructor
  · intro h c hc
    obtain ⟨hshared, _, hnul⟩ := Literal.bounds_of_means h
    refine (hshared c hc).resolve_right ?_
    rintro rfl
    exact hnul rfl hc
  · exact Literal.means_flatMap_escape

/-- A text with a character that has only an escape which Go lacks is not quoted as a literal. -/
theorem not_isLiteral_quoted {text : String} {c : Char} (hc : c ∈ text.toList)
    (hshared : Literal.isShared c = false) (hnul : c ≠ '\x00') (bytes : Bytes) :
    ¬IsLiteral (quoted text) bytes := by
  intro h
  rw [isLiteral_quoted_iff_means] at h
  rcases (Literal.bounds_of_means h).shared c hc with hc | hc
  · rw [hshared] at hc
    cases hc
  · exact hnul hc

end ClientGen.Text
