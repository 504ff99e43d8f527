namespace ClientGen.Wire

abbrev Bytes := List UInt8

/-- A number in groups of seven bits, the lowest first; all but the last are marked. -/
def writeVarint (n : Nat) : Bytes :=
  if n < 128 then [.ofNat n] else .ofNat (n % 128 + 128) :: writeVarint (n / 128)
termination_by n

/-- Reads a number of at most `limit` groups. The tenth group of a 64-bit number has one bit. -/
def readGroups : (limit : Nat) → Bytes → Option (Nat × Bytes)
  | 0, _ => none
  | _, [] => none
  | limit + 1, b :: rest =>
    if b < 128 then
      if limit = 0 ∧ 2 ≤ b then none else some (b.toNat, rest)
    else (readGroups limit rest).map fun (n, rest) => (b.toNat - 128 + 128 * n, rest)

def readVarint (bytes : Bytes) : Option (Nat × Bytes) :=
  readGroups 10 bytes

theorem length_lt_of_readGroups {limit : Nat} {bytes rest : Bytes} {n : Nat}
    (h : readGroups limit bytes = some (n, rest)) : rest.length < bytes.length := by
  induction limit generalizing bytes rest n with
  | zero => simp [readGroups] at h
  | succ limit ih =>
    cases bytes with
    | nil => simp [readGroups] at h
    | cons b bytes =>
      rw [readGroups] at h
      split at h
      · split at h
        · simp at h
        · simp_all
      · obtain ⟨⟨m, tail⟩, hm, he⟩ := Option.map_eq_some_iff.1 h
        simp only [Prod.mk.injEq] at he
        have := ih hm
        simp only [← he.2, List.length_cons]
        omega

theorem length_lt_of_readVarint {bytes rest : Bytes} {n : Nat}
    (h : readVarint bytes = some (n, rest)) : rest.length < bytes.length :=
  length_lt_of_readGroups h

def readVarints (bytes : Bytes) : Option (List Nat) :=
  if bytes.isEmpty then some []
  else match _h : readVarint bytes with
    | none => none
    | some (n, rest) => (readVarints rest).map (n :: ·)
termination_by bytes.length
decreasing_by exact length_lt_of_readVarint _h

def utf8? (bytes : Bytes) : Option String :=
  String.fromUTF8? bytes.toByteArray

end ClientGen.Wire
