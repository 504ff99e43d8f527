import ClientGen.Wire.Fold
import Mathlib.Algebra.Group.Nat.Defs

namespace ClientGen.Wire

theorem writeVarint_of_lt {n : Nat} (h : n < 128) : writeVarint n = [.ofNat n] := by
  rw [writeVarint, if_pos h]

theorem writeVarint_of_ge {n : Nat} (h : 128 ≤ n) :
    writeVarint n = .ofNat (n % 128 + 128) :: writeVarint (n / 128) := by
  rw [writeVarint, if_neg (by omega)]

theorem toNat_ofNat {n : Nat} (h : n < 256) : (UInt8.ofNat n).toNat = n := by
  rw [UInt8.toNat_ofNat']
  omega

/-- A number that fits the groups is read back, whatever follows it. -/
theorem readGroups_writeVarint (limit n : Nat) (rest : Bytes) (h : n < 2 * 128 ^ limit) :
    readGroups (limit + 1) (writeVarint n ++ rest) = some (n, rest) := by
  induction limit generalizing n with
  | zero =>
    have hn : n < 2 := by simpa using h
    have hb := toNat_ofNat (n := n) (by omega)
    rw [writeVarint_of_lt (by omega), List.singleton_append, readGroups]
    rw [if_pos, if_neg, hb]
    · rw [UInt8.le_iff_toNat_le, hb]
      exact fun hlast => absurd hn (Nat.not_lt.mpr hlast.2)
    · rw [UInt8.lt_iff_toNat_lt, hb]
      exact Nat.lt_trans hn (by decide)
  | succ limit ih =>
    by_cases hn : n < 128
    · have hb := toNat_ofNat (n := n) (by omega)
      rw [writeVarint_of_lt hn, List.singleton_append, readGroups]
      simp [UInt8.lt_iff_toNat_lt, hb, hn]
    · have hb := toNat_ofNat (n := n % 128 + 128) (by omega)
      have hlt : n / 128 < 2 * 128 ^ limit := by
        rw [Nat.div_lt_iff_lt_mul (by decide)]
        calc n < 2 * 128 ^ (limit + 1) := h
          _ = 2 * 128 ^ limit * 128 := by rw [Nat.pow_succ, Nat.mul_assoc]
      rw [writeVarint_of_ge (by omega), List.cons_append, readGroups, ih _ hlt, if_neg]
      · rw [Option.map_some, hb]
        have he : n % 128 + 128 - 128 + 128 * (n / 128) = n := by omega
        exact congrArg (fun m => some (m, rest)) he
      · rw [UInt8.lt_iff_toNat_lt, hb]
        exact Nat.not_lt.mpr (Nat.le_add_left _ _)

theorem readVarint_writeVarint {n : Nat} (rest : Bytes) (h : n < UInt64.size) :
    readVarint (writeVarint n ++ rest) = some (n, rest) :=
  readGroups_writeVarint 9 n rest h

theorem writeVarint_append_inj {m n : Nat} {a b : Bytes}
    (h : writeVarint m ++ a = writeVarint n ++ b) : m = n ∧ a = b := by
  have hpow : m + n < 128 ^ (m + n) := Nat.lt_pow_self (by decide)
  have hm : m < 2 * 128 ^ (m + n) := by omega
  have hn : n < 2 * 128 ^ (m + n) := by omega
  have hread := readGroups_writeVarint _ m a hm
  rw [h, readGroups_writeVarint _ n b hn] at hread
  simpa [eq_comm] using hread

theorem length_writeVarint_pos (n : Nat) : 0 < (writeVarint n).length := by
  by_cases h : n < 128
  · rw [writeVarint_of_lt h]
    exact Nat.one_pos
  · rw [writeVarint_of_ge (by omega)]
    exact Nat.succ_pos _

theorem take?_append (content rest : Bytes) :
    take? content.length (content ++ rest) = some (content, rest) := by
  rw [take?, if_pos (by simp), List.take_left', List.drop_left'] <;> rfl

def writeBlock (content : Bytes) : Bytes :=
  writeVarint content.length ++ content

theorem writeBlock_append_inj {a b x y : Bytes} (h : writeBlock a ++ x = writeBlock b ++ y) :
    a = b ∧ x = y := by
  rw [writeBlock, writeBlock, List.append_assoc, List.append_assoc] at h
  obtain ⟨hlength, hcontent⟩ := writeVarint_append_inj h
  exact List.append_inj hcontent hlength

theorem toList_loop (bytes : ByteArray) (i : Nat) (before : List UInt8) :
    ByteArray.toList.loop bytes i before = before.reverse ++ bytes.data.toList.drop i := by
  fun_induction ByteArray.toList.loop bytes i before with
  | case1 i before h ih =>
    have hi : i < bytes.data.toList.length := by simpa using h
    have hget : bytes.get! i = bytes.data.toList[i] := getElem!_pos bytes.data i h
    rw [ih, List.reverse_cons, List.append_assoc, List.drop_eq_getElem_cons hi, hget]
    rfl
  | case2 i before h =>
    have hi : bytes.data.toList.length ≤ i := by simpa using h
    rw [List.drop_eq_nil_of_le hi, List.append_nil]

theorem toList_eq (bytes : ByteArray) : bytes.toList = bytes.data.toList :=
  toList_loop bytes 0 []

theorem toByteArray_toList (bytes : ByteArray) : bytes.toList.toByteArray = bytes := by
  rw [toList_eq]
  ext1
  simp

theorem utf8?_toUTF8 (text : String) : utf8? text.toUTF8.toList = some text := by
  rw [utf8?, toByteArray_toList, String.fromUTF8?, String.toUTF8_eq_toByteArray,
    dif_pos text.isValidUTF8]
  rfl

theorem toUTF8_toList_inj {a b : String} (h : a.toUTF8.toList = b.toUTF8.toList) : a = b := by
  have := congrArg utf8? h
  rw [utf8?_toUTF8, utf8?_toUTF8] at this
  exact Option.some_inj.mp this

end ClientGen.Wire
