namespace ClientGen.Pattern

/-- How deep things side by side are, from how deep each one is. A single thing needs no
wrapping. -/
def wrapped : List Nat → Nat
  | [] => 0
  | [depth] => depth
  | depths => depths.foldl max 0 + 1

/-- A group that is being read: how deep the branches before this one are, and the parts of this
one, the last first. A part can be a change of flags, which has no depth. -/
structure Group where
  branches : List Nat
  parts : List (Option Nat)
deriving Repr

namespace Group

def empty : Group := ⟨[], []⟩

def add (group : Group) (depth : Nat) : Group :=
  { group with parts := some depth :: group.parts }

def addFlags (group : Group) : Group :=
  { group with parts := none :: group.parts }

/-- The last part can be repeated, if it is not a change of flags. -/
def repeatLast? (group : Group) : Option Group :=
  match group.parts with
  | some depth :: parts => some { group with parts := some (depth + 1) :: parts }
  | _ => none

def branchDepth (group : Group) : Nat :=
  wrapped (group.parts.map (·.getD 0))

def branch (group : Group) : Group :=
  ⟨group.branchDepth :: group.branches, []⟩

def depth (group : Group) : Nat :=
  wrapped (group.branchDepth :: group.branches)

end Group

/-- A class that is being read: how deep what stands before the last operator is, and the items
after it. A class is at its beginning until something other than a minus is read. -/
structure CharClass where
  left : Option Nat
  items : List Nat
  atBeginning : Bool
deriving Repr

namespace CharClass

def empty : CharClass := ⟨none, [], true⟩

def add (charClass : CharClass) (depth : Nat) : CharClass :=
  { charClass with items := depth :: charClass.items, atBeginning := false }

def addMinus (charClass : CharClass) : CharClass :=
  { charClass with items := 0 :: charClass.items }

def depth (charClass : CharClass) : Nat :=
  match charClass.left with
  | none => wrapped charClass.items
  | some left => max left (wrapped charClass.items) + 1

/-- An operator takes all that stands before it. -/
def operator (charClass : CharClass) : CharClass :=
  ⟨some charClass.depth, [], false⟩

end CharClass

end ClientGen.Pattern
