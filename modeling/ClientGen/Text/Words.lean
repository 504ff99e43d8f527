import ClientGen.Text.Case
import ClientGen.Text.Letter

namespace ClientGen.Text

/-- The case of the last cased character of a word; `fresh` before there is one. -/
inductive Mode
  | fresh
  | lower
  | upper
deriving DecidableEq, Repr

def Mode.after (mode : Mode) (c : Char) : Mode :=
  if isLower c then .lower else if isUpper c then .upper else mode

/-- The words in a stretch of letters and digits, `word` being the reversed start of the first. A
word ends before an upper case letter that follows lower case, and before the last upper case letter
of several if lower case follows. -/
def wordsFrom (word : List Char) (mode : Mode) : List Char → List (List Char)
  | [] => []
  | [c] => [(c :: word).reverse]
  | c :: next :: rest =>
    if mode.after c = .lower ∧ isUpper next then
      (c :: word).reverse :: wordsFrom [] .fresh (next :: rest)
    else if mode = .upper ∧ isUpper c ∧ isLower next then
      word.reverse :: wordsFrom [c] .fresh (next :: rest)
    else wordsFrom (c :: word) (mode.after c) (next :: rest)

def words (text : List Char) : List (List Char) :=
  (text.splitOnP (!isAlphanumeric ·)).flatMap (wordsFrom [] .fresh)

/-- A word in lower case; a capital sigma takes its final form at the end. -/
def lowercase : List Char → List Char
  | [] => []
  | [c] => if c = 'Σ' then ['ς'] else toLower c
  | c :: rest => toLower c ++ lowercase rest

def capitalize : List Char → List Char
  | [] => []
  | c :: rest => toUpper c ++ lowercase rest

def snakeCase (text : String) : String :=
  .ofList (['_'].intercalate ((words text.toList).map lowercase))

def upperCamelCase (text : String) : String :=
  .ofList ((words text.toList).flatMap capitalize)

def lowerCamelCase (text : String) : String :=
  match words text.toList with
  | [] => ""
  | first :: rest => .ofList (lowercase first ++ rest.flatMap capitalize)

end ClientGen.Text
