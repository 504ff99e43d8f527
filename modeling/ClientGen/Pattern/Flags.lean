import ClientGen.Text.Blank

namespace ClientGen.Pattern

open Text

/-- What decides how a pattern is read: whether it is about characters, rather than bytes, and
whether white space and comments in it are skipped. -/
structure Flags where
  unicode : Bool
  spaced : Bool
deriving DecidableEq, Repr

namespace Flags

def initial : Flags := ⟨true, false⟩

/-- The letters of all flags. Most of them change what a pattern matches, not how it is read. -/
def letters : List Char := ['i', 'm', 's', 'U', 'u', 'R', 'x']

/-- A change names each flag at most once. A minus stands before the flags that it turns off. -/
def isChange (change : List Char) : Bool :=
  change.Nodup && change.all ('-' :: letters).contains && change.getLast? != some '-'

def change? (flags : Flags) (change : List Char) : Option Flags :=
  if isChange change then
    let on := change.takeWhile (· ≠ '-')
    let off := change.dropWhile (· ≠ '-')
    let apply (letter : Char) (flag : Bool) := (flag || on.contains letter) && !off.contains letter
    some ⟨apply 'u' flags.unicode, apply 'x' flags.spaced⟩
  else none

/-- The text after the white space and the comments at its beginning. A comment goes from a number
sign to the end of the line. -/
def skipSpace (comment : Bool) : List Char → List Char
  | [] => []
  | c :: rest =>
    if comment then skipSpace (c ≠ '\n') rest
    else if c = '#' then skipSpace true rest
    else if isBlank c then skipSpace false rest
    else c :: rest

def skip (flags : Flags) (text : List Char) : List Char :=
  if flags.spaced then skipSpace false text else text

def peek? (flags : Flags) (text : List Char) : Option Char :=
  if flags.spaced then
    match text.dropWhile isBlank with
    | '#' :: rest => rest.find? (!isBlank ·)
    | rest => rest.head?
  else text.head?

theorem length_skipSpace_le (comment : Bool) (text : List Char) :
    (skipSpace comment text).length ≤ text.length := by
  induction text generalizing comment with
  | nil => simp [skipSpace]
  | cons c rest ih =>
    have h₁ := ih true
    have h₂ := ih false
    have h₃ := ih (c ≠ '\n')
    rw [skipSpace]
    split
    · exact Nat.le_succ_of_le h₃
    split
    · exact Nat.le_succ_of_le h₁
    split
    · exact Nat.le_succ_of_le h₂
    · exact Nat.le_refl _

theorem length_skip_le (flags : Flags) (text : List Char) :
    (flags.skip text).length ≤ text.length := by
  unfold skip
  split
  · exact length_skipSpace_le false text
  · exact Nat.le_refl _

end Flags

end ClientGen.Pattern
