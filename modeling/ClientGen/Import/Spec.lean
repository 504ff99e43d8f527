import ClientGen.Text.Digit
import ClientGen.Text.Quoted

namespace ClientGen

open Text

/-- A Go import: its path, and the name it is given, which is empty if it has none. -/
structure ImportSpec where
  name : String
  path : String
deriving DecidableEq, Repr, Inhabited

namespace ImportSpec

def ofPath (path : String) : ImportSpec := ⟨"", path⟩

/-- Paths of the standard library have no dot. -/
def isStd (spec : ImportSpec) : Bool :=
  !spec.path.toList.contains '.'

/-- Version segments such as `v1` and `v2beta1` name no package. -/
def isVersion : List Char → Bool
  | 'v' :: c :: _ => isDecimalDigit c
  | _ => false

def packageSegment? (path : List Char) : Option (List Char) :=
  (path.splitOn '/').reverse.find? fun segment => !segment.isEmpty && !isVersion segment

def boundName (spec : ImportSpec) : String :=
  if spec.name.isEmpty then ((packageSegment? spec.path.toList).map .ofList).getD spec.path
  else spec.name

def render (spec : ImportSpec) : String :=
  if spec.name.isEmpty then quoted spec.path else spec.name ++ " " ++ quoted spec.path

/-- Standard packages come first; then paths and names decide, by code points. -/
def order (a b : ImportSpec) : Ordering :=
  ((compare b.isStd a.isStd).then (compare a.path b.path)).then (compare a.name b.name)

end ImportSpec

end ClientGen
