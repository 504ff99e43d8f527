import ClientGen.Proofs.Json.Records
import ClientGen.Schema.FromJson

namespace ClientGen

open Json

namespace Schema

def TextWrittenAs (text : String) (json : Json) : Prop :=
  json = .string (some text)

def BoolWrittenAs (value : Bool) (json : Json) : Prop :=
  json = .bool value

def Int32WrittenAs (n : Int32) (json : Json) : Prop :=
  json = .number (.integer (n.toInt < 0) n.toInt.natAbs)

variable {α : Type} {W : α → Json → Prop} {decode : Decoder α}

def NullableWrittenAs (W : α → Json → Prop) : Option α → Json → Prop
  | none, json => json = .null
  | some value, json => W value json

def ListWrittenAs (W : α → Json → Prop) (values : List α) (json : Json) : Prop :=
  ∃ items, json = .array items ∧ List.Forall₂ W values items

/-- Whether a decoder reads a value from all documents that write it, if it may open as many levels
of containers as these have. -/
def Reads (decode : Decoder α) (Writes : Json → Prop) (value : α) : Prop :=
  ∀ json budget, Writes json → json.depth ≤ budget → decode budget json = some value

theorem reads_text (text : String) : Reads Decoder.text (TextWrittenAs text) text := by
  rintro _ budget rfl _
  rfl

theorem reads_bool (value : Bool) : Reads Decoder.bool (BoolWrittenAs value) value := by
  rintro _ budget rfl _
  rfl

theorem reads_int32 (n : Int32) : Reads Decoder.int32 (Int32WrittenAs n) n := by
  rintro _ budget rfl _
  have hlow := n.le_toInt
  have hhigh := n.toInt_lt
  by_cases hn : n.toInt < 0
  · rw [decide_eq_true hn, Decoder.int32, if_pos (by omega), Int.ofNat_natAbs_of_nonpos (by omega),
      Int.neg_neg, Int32.ofInt_toInt]
  · rw [decide_eq_false hn, Decoder.int32, if_pos (by omega), Int.natAbs_of_nonneg (by omega),
      Int32.ofInt_toInt]

theorem reads_nullable (h : ∀ value, Reads decode (W value) value) (hnull : ∀ value, ¬W value .null)
    (value : Option α) : Reads (Decoder.nullable decode) (NullableWrittenAs W value) value := by
  intro json budget hjson hdepth
  cases value with
  | none =>
    cases hjson
    rfl
  | some value =>
    have hsome := h value json budget hjson hdepth
    rw [Decoder.nullable, hsome, Option.map_some]
    rintro rfl
    exact hnull value hjson

theorem reads_list {values : List α} (h : ∀ value ∈ values, Reads decode (W value) value) :
    Reads (Decoder.list decode) (ListWrittenAs W values) values := by
  rintro _ budget ⟨items, rfl, hitems⟩ hdepth
  rw [depth] at hdepth
  obtain ⟨rest, rfl⟩ := Nat.exists_eq_add_one_of_ne_zero (show budget ≠ 0 by omega)
  have hrest : ∀ item ∈ items, item.depth ≤ rest := by
    intro item hitem
    have := depth_le_of_mem_items hitem
    omega
  clear hdepth
  rw [Decoder.list]
  induction hitems with
  | nil => rfl
  | @cons value item values items hfirst _ ih =>
    obtain ⟨hvalue, hvalues⟩ := List.forall_mem_cons.mp h
    obtain ⟨hitem, hitems⟩ := List.forall_mem_cons.mp hrest
    rw [List.mapM_cons, hvalue item rest hfirst hitem, ih hvalues hitems]
    rfl

variable {Writes : Json → Prop} {key : String} {value default : α} {budget : Nat}
  {slot : Option Json}

theorem required_of_found (h : Reads decode Writes value)
    (hfound : Member.Found budget ⟨key, Writes, False⟩ slot) :
    Decoder.required decode budget slot = some value := by
  cases slot with
  | none => exact hfound.elim
  | some json => exact h json budget hfound.1 hfound.2

theorem withDefault_of_found (h : Reads decode Writes value)
    (hfound : Member.Found budget ⟨key, Writes, value = default⟩ slot) :
    Decoder.withDefault default decode budget slot = some value := by
  cases slot with
  | none => exact congrArg some (Eq.symm hfound)
  | some json => exact h json budget hfound.1 hfound.2

end Schema

end ClientGen
