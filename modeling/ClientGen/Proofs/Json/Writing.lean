import ClientGen.Json.Writer
import ClientGen.Proofs.Json.Documents

namespace ClientGen.Json

inductive Integral : Json → Prop
  | null : Integral .null
  | bool (value : Bool) : Integral (.bool value)
  | number (negative : Bool) (n : Nat) : Integral (.number (.integer negative n))
  | string (text : Option String) : Integral (.string text)
  | array {items : List Json} (h : ∀ item ∈ items, Integral item) : Integral (.array items)
  | object {members : List (Option String × Json)} (h : ∀ member ∈ members, Integral member.2) :
      Integral (.object members)

theorem spellsUnit_writeChar (c : Char) : SpellsUnit (writeChar c) c.toNat := by
  by_cases hshort : c ∈ ['"', '\\', '\n', '\r', '\t', '\x08', '\x0c']
  · simp only [List.mem_cons, List.not_mem_nil, or_false] at hshort
    obtain rfl | rfl | rfl | rfl | rfl | rfl | rfl := hshort <;> exact .escape (by decide)
  · simp only [List.mem_cons, List.not_mem_nil, or_false, not_or] at hshort
    obtain ⟨hquote, hescape, hline, hreturn, htab, hback, hfeed⟩ := hshort
    rw [writeChar, if_neg hquote, if_neg hescape, if_neg hline, if_neg hreturn, if_neg htab,
      if_neg hback, if_neg hfeed]
    split
    · rename_i hcontrol
      have hvalue : 0x1000 * 0 + 0x100 * 0 + 0x10 * (c.toNat / 16) + c.toNat % 16 = c.toNat := by
        omega
      have hcode : SpellsUnit _ (0x1000 * 0 + 0x100 * 0 + 0x10 * (c.toNat / 16) + c.toNat % 16) :=
        .code (.lower (by decide)) (.lower (by decide)) (.lower (by omega)) (.lower (by omega))
      rwa [hvalue] at hcode
    · exact .plain hquote hescape (by omega)

theorem spellsUnits_flatMap (chars : List Char) :
    ∃ units, SpellsUnits (chars.flatMap writeChar) units ∧ Denotes units chars := by
  induction chars with
  | nil => exact ⟨[], .nil, .nil⟩
  | cons c chars ih =>
    obtain ⟨units, hunits, hchars⟩ := ih
    exact ⟨c.toNat :: units, .cons (spellsUnit_writeChar c) hunits, .one hchars⟩

theorem spellsString_writeString (text : Option String) : SpellsString (writeString text) text := by
  cases text with
  | some text =>
    obtain ⟨units, hunits, hchars⟩ := spellsUnits_flatMap text.toList
    exact .text hunits hchars
  | none =>
    have hcode :
        SpellsUnit ['\\', 'u', 'd', '8', '0', '0'] (0x1000 * 13 + 0x100 * 8 + 0x10 * 0 + 0) :=
      .code (@SpellsDigit.lower 13 (by decide)) (@SpellsDigit.lower 8 (by decide))
        (@SpellsDigit.lower 0 (by decide)) (@SpellsDigit.lower 0 (by decide))
    refine .broken (.cons hcode .nil) fun chars hchars => ?_
    generalize hunit : 0x1000 * 13 + 0x100 * 8 + 0x10 * 0 + 0 = unit at hchars
    cases hchars with
    | @one c _ _ _ =>
      have := toNat_bounds c
      omega

theorem endsWord_cons {c : Char} (h : c ∈ marks.map Prod.fst) (text : List Char) :
    EndsWord (c :: text) := by
  rintro _ ⟨⟩
  exact .inr h

theorem endsWord_writeItems (items : List Json) (text : List Char) :
    EndsWord (writeItems items ++ ']' :: text) := by
  cases items with
  | nil => exact endsWord_cons (by decide) text
  | cons item items => exact endsWord_cons (by decide) _

theorem endsWord_writeMembers (members : List (Option String × Json)) (text : List Char) :
    EndsWord (writeMembers members ++ '\x7d' :: text) := by
  cases members with
  | nil => exact endsWord_cons (by decide) text
  | cons member members => exact endsWord_cons (by decide) _

def SpelledByWrite (json : Json) : Prop :=
  ∀ text tokens, EndsWord text → SpellsTokens text tokens →
    SpellsTokens (write json ++ text) (json.tokens ++ tokens)

variable {text : List Char} {tokens : List Token}

theorem spells_writeItems {items : List Json} (ih : ∀ item ∈ items, SpelledByWrite item)
    (h : SpellsTokens text tokens) :
    SpellsTokens (writeItems items ++ ']' :: text) (tokensOfItems items ++ tokens) := by
  induction items with
  | nil => exact .mark (by simp [marks]) h
  | cons item items ihitems =>
    obtain ⟨hitem, hitems⟩ := List.forall_mem_cons.mp ih
    rw [writeItems, tokensOfItems, List.cons_append, List.append_assoc, List.cons_append,
      List.append_assoc]
    exact .mark (by simp [marks]) (hitem _ _ (endsWord_writeItems items text) (ihitems hitems))

theorem spells_member (key : Option String) {value : Json} (hvalue : SpelledByWrite value)
    (hend : EndsWord text) (h : SpellsTokens text tokens) :
    SpellsTokens (writeString key ++ ':' :: (write value ++ text))
      (.atom (.string key) :: .colon :: (value.tokens ++ tokens)) :=
  .string (spellsString_writeString key) (.mark (by simp [marks]) (hvalue _ _ hend h))

theorem spells_writeMembers {members : List (Option String × Json)}
    (ih : ∀ member ∈ members, SpelledByWrite member.2) (h : SpellsTokens text tokens) :
    SpellsTokens (writeMembers members ++ '\x7d' :: text) (tokensOfMembers members ++ tokens) := by
  induction members with
  | nil => exact .mark (by simp [marks]) h
  | cons member members ihmembers =>
    obtain ⟨key, value⟩ := member
    obtain ⟨hvalue, hmembers⟩ := List.forall_mem_cons.mp ih
    have hrest := spells_member key hvalue (endsWord_writeMembers members text) (ihmembers hmembers)
    have hcomma := SpellsTokens.mark (by simp [marks] : (',', Token.comma) ∈ marks) hrest
    simpa [writeMembers, tokensOfMembers] using hcomma

theorem spelledByWrite {json : Json} (h : Integral json) : SpelledByWrite json := by
  induction h with
  | null => exact fun text tokens hend h => .bare .null hend h
  | bool value =>
    cases value with
    | false => exact fun text tokens hend h => .bare .false hend h
    | true => exact fun text tokens hend h => .bare .true hend h
  | number negative n =>
    exact fun text tokens hend h => .bare (.number (.integer negative n)) hend h
  | string value => exact fun text tokens _ h => .string (spellsString_writeString value) h
  | @array items _ ih =>
    intro text tokens hend h
    cases items with
    | nil => exact .mark (by simp [marks]) (.mark (by simp [marks]) h)
    | cons item items =>
      obtain ⟨hitem, hitems⟩ := List.forall_mem_cons.mp ih
      have hrest := hitem _ _ (endsWord_writeItems items text) (spells_writeItems hitems h)
      have hbegin := SpellsTokens.mark (by simp [marks] : ('[', Token.beginArray) ∈ marks) hrest
      simpa [write, Json.tokens] using hbegin
  | @object members _ ih =>
    intro text tokens hend h
    cases members with
    | nil => exact .mark (by simp [marks]) (.mark (by simp [marks]) h)
    | cons member members =>
      obtain ⟨key, value⟩ := member
      obtain ⟨hvalue, hmembers⟩ := List.forall_mem_cons.mp ih
      have hrest := spells_member key hvalue (endsWord_writeMembers members text)
        (spells_writeMembers hmembers h)
      have hbegin := SpellsTokens.mark (by simp [marks] : ('\x7b', Token.beginObject) ∈ marks) hrest
      simpa [write, Json.tokens] using hbegin

/-- What is written for a document spells it. -/
theorem spells_write {json : Json} (h : Integral json) : Spells (write json) json := by
  have hwrite := spelledByWrite h [] [] (by simp [EndsWord]) .nil
  rwa [List.append_nil, List.append_nil] at hwrite

end ClientGen.Json
