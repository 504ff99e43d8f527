namespace ClientGen.Text

/-- The pieces between the separators; one more than there are separators. -/
def pieces (sep : Char) (text : String) : List String :=
  (text.toList.splitOn sep).map .ofList

def cutChars (sep : Char) : List Char → Option (List Char × List Char)
  | [] => none
  | c :: rest =>
    if c = sep then some ([], rest)
    else (cutChars sep rest).map fun (before, after) => (c :: before, after)

def cut (sep : Char) (text : String) : Option (String × String) :=
  (cutChars sep text.toList).map fun (before, after) => (.ofList before, .ofList after)

def after? (lead text : String) : Option String :=
  (lead.toList.isPrefixOf? text.toList).map .ofList

def before? (tail text : String) : Option String :=
  (tail.toList.isSuffixOf? text.toList).map .ofList

def dropLeading (c : Char) (text : String) : String :=
  .ofList (text.toList.dropWhile (· == c))

def dropTrailing (c : Char) (text : String) : String :=
  .ofList (text.toList.reverse.dropWhile (· == c)).reverse

def dropReturn (line : List Char) : List Char :=
  if line.getLast? = some '\r' then line.dropLast else line

/-- The lines of a text. Each ends in a line feed, before which one carriage return is dropped;
the last may lack the line feed, and is then no line if nothing is on it. -/
def lines (text : List Char) : List (List Char) :=
  let pieces := text.splitOn '\n'
  pieces.dropLast.map dropReturn ++ pieces.getLast?.toList.filter (!·.isEmpty)

def padded (width : Nat) (text : String) : String :=
  text ++ .ofList (List.replicate (width - text.length) ' ')

theorem cutChars_eq_none_iff {sep : Char} {text : List Char} :
    cutChars sep text = none ↔ sep ∉ text := by
  induction text with
  | nil => simp [cutChars]
  | cons c rest ih =>
    by_cases h : c = sep
    · simp [cutChars, h]
    · simp [cutChars, h, ih, Ne.symm h]

end ClientGen.Text
