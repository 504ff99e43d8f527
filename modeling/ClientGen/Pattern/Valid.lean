import ClientGen.Pattern.Escape
import ClientGen.Pattern.Nesting
import ClientGen.Text.Letter

namespace ClientGen.Pattern

open Text

/-- Where the reading of a pattern stands: the open classes and the open groups, the innermost
first, and the names of groups so far. A group that is closed gives the flags back to those
outside. -/
structure State where
  flags : Flags
  classes : List CharClass
  group : Group
  outer : List (Flags × Group)
  names : List (List Char)

def classNames : List String := [
  "alnum", "alpha", "ascii", "blank", "cntrl", "digit", "graph", "lower", "print", "punct", "space",
  "upper", "word", "xdigit"]

def readNamedClass (text : List Char) : Option (Bool × List Char) :=
  match text with
  | ':' :: '^' :: rest => (name rest).map (true, ·)
  | ':' :: rest => (name rest).map (false, ·)
  | _ => none
where
  name (text : List Char) : Option (List Char) :=
    match text.dropWhile (· ≠ ':') with
    | ':' :: ']' :: rest =>
      if classNames.contains (.ofList (text.takeWhile (· ≠ ':'))) then some rest else none
    | _ => none

/-- An item of a class is a set, or a character that its pattern can hold. -/
def isItem (flags : Flags) : Atom → Bool
  | .char c => flags.hasByte c
  | .set => true
  | .place => false

def isRange (flags : Flags) : Atom → Atom → Bool
  | .char first, .char last => first ≤ last && flags.hasByte last
  | _, _ => false

/-- Reads an item of a class or a range of characters. A minus before the end of the class, or
before another minus, makes no range. -/
def readItem (flags : Flags) (text : List Char) : Option (List Char) := do
  let (first, rest) ← readAtom flags text
  let after := flags.skip rest
  match after with
  | '-' :: tail =>
    if flags.peek? tail = some ']' || flags.peek? tail = some '-' then
      if isItem flags first then return after else none
    else
      let (last, rest) ← readAtom flags (flags.skip tail)
      if isRange flags first last then return rest else none
  | _ => if isItem flags first then return after else none

namespace State

def initial : State := ⟨.initial, [], .empty, [], []⟩

/-- Opens a class, which is a complement if a circumflex comes first. -/
def openClass (state : State) (text : List Char) : Option (State × List Char) :=
  let opened := { state with classes := .empty :: state.classes }
  match state.flags.skip text with
  | '^' :: rest => if state.flags.unicode then some (opened, rest) else none
  | rest => some (opened, rest)

def add (state : State) (depth : Nat) : State :=
  match state.classes with
  | [] => { state with group := state.group.add depth }
  | charClass :: classes => { state with classes := charClass.add depth :: classes }

/-- Reads on in a class, with the classes around it. At its beginning a bracket does not close it,
and a minus is an item. -/
def classStep (state : State) (charClass : CharClass) (classes : List CharClass)
    (text : List Char) : Option (State × List Char) :=
  match charClass.atBeginning, text with
  | true, '-' :: rest => some ({ state with classes := charClass.addMinus :: classes }, rest)
  | _, '-' :: '-' :: rest | _, '&' :: '&' :: rest | _, '~' :: '~' :: rest =>
    some ({ state with classes := charClass.operator :: classes }, rest)
  | _, '[' :: rest =>
    match readNamedClass rest with
    | some (complement, rest) =>
      if complement && !state.flags.unicode then none else some (state.add 0, rest)
    | none => state.openClass rest
  | begins, ']' :: rest =>
    if begins && charClass.items.isEmpty then some (state.add 0, rest)
    else some ({ state with classes := classes }.add (charClass.depth + 1), rest)
  | _, _ => (readItem state.flags text).map (state.add 0, ·)

def openGroup (state : State) (flags : Flags) : State :=
  { state with flags, group := .empty, outer := (state.flags, state.group) :: state.outer }

def isGroupName : List Char → Bool
  | [] => false
  | c :: rest =>
    (c = '_' || isAlphabetic c) &&
      rest.all fun c => ['_', '.', '[', ']'].contains c || isAlphanumeric c

def openNamed (state : State) (text : List Char) : Option (State × List Char) :=
  let name := text.takeWhile (· ≠ '>')
  match text.dropWhile (· ≠ '>') with
  | [] => none
  | _ :: rest =>
    if isGroupName name && !state.names.contains name then
      some ({ state.openGroup state.flags with names := name :: state.names }, rest)
    else none

def changeFlags (state : State) (text : List Char) : Option (State × List Char) := do
  let change := text.takeWhile fun c => c ≠ ':' && c ≠ ')'
  let flags ← state.flags.change? change
  match text.drop change.length with
  | ':' :: rest => return (state.openGroup flags, rest)
  | _ :: rest =>
    if change.isEmpty then none
    else return ({ state with flags, group := state.group.addFlags }, rest)
  | [] => none

def parenthesis (state : State) (text : List Char) : Option (State × List Char) :=
  match state.flags.skip text with
  | '?' :: 'P' :: '<' :: rest | '?' :: '<' :: rest => state.openNamed rest
  | '?' :: rest => state.changeFlags rest
  | rest => some (state.openGroup state.flags, rest)

def closeGroup (state : State) : Option State :=
  match state.outer with
  | [] => none
  | (flags, group) :: outer =>
    some { state with flags, group := group.add (state.group.depth + 1), outer }

/-- Reads on outside classes. There is no closing brace in a pattern, so an opening one is invalid
where it is not escaped. -/
def groupStep (state : State) : List Char → Option (State × List Char)
  | [] => none
  | c :: rest =>
    match c with
    | '(' => state.parenthesis rest
    | ')' => state.closeGroup.map (·, rest)
    | '|' => some ({ state with group := state.group.branch }, rest)
    | '[' => state.openClass rest
    | '?' | '*' | '+' =>
      state.group.repeatLast?.map fun group =>
        ({ state with group }, if rest.head? = some '?' then rest.tail else rest)
    | '.' => if state.flags.unicode then some (state.add 0, rest) else none
    | '\x7b' => none
    | _ => (readAtom state.flags (c :: rest)).map fun (_, rest) => (state.add 0, rest)

def step (state : State) (text : List Char) : Option (State × List Char) :=
  match state.classes with
  | [] => state.groupStep text
  | charClass :: classes => state.classStep charClass classes text

def read (state : State) (text : List Char) : Option State :=
  match _h : state.flags.skip text with
  | [] => some state
  | c :: rest =>
    match state.step (c :: rest) with
    | none => none
    | some (after, next) => if next.length ≤ rest.length then read after next else none
termination_by text.length
decreasing_by
  have := state.flags.length_skip_le text
  rw [_h, List.length_cons] at this
  omega

def isFinal (state : State) : Bool :=
  state.classes.isEmpty && state.outer.isEmpty && state.group.depth ≤ 250

end State

def isPattern (text : List Char) : Bool :=
  (State.initial.read text).any State.isFinal

end ClientGen.Pattern
