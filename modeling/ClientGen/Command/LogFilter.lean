import ClientGen.Pattern.Valid
import ClientGen.Text.Blank
import ClientGen.Text.Floating
import ClientGen.Text.Letter
import ClientGen.Text.Numeral
import ClientGen.Text.Split

namespace ClientGen.LogFilter

open Text

/-- Where the reading of a directive stands, with the positions in bytes that it comes back to. -/
inductive State
  | start
  | levelOrTarget
  | span
  | field (start : Nat)
  | fields
  | target
  | level (start : Nat)
deriving DecidableEq, Repr

def dropBytes : (count : Nat) → List Char → Option (List Char)
  | 0, text => some text
  | _, [] => none
  | count, c :: rest => if c.utf8Size ≤ count then dropBytes (count - c.utf8Size) rest else none

def takeBytes : (count : Nat) → List Char → Option (List Char)
  | 0, _ => some []
  | _, [] => none
  | count, c :: rest =>
    if c.utf8Size ≤ count then (takeBytes (count - c.utf8Size) rest).map (c :: ·) else none

/-- A value is a number, or a pattern. Whatever follows a second equals sign is ignored, and so is
the form of the name. -/
def isField (text : List Char) : Bool :=
  match text.splitOn '=' with
  | _ :: value :: _ => isFloat value || Pattern.isPattern value
  | _ => true

def step (directive : List Char) (position : Nat) (state : State) (c : Char) : Option State :=
  match state with
  | .start =>
    if c = '[' then some .span
    else if c = '-' || c = ':' || c = '_' || isAlphanumeric c then some .levelOrTarget
    else none
  | .levelOrTarget =>
    if c = '=' then some (.level (position + 1)) else if c = '[' then some .span else some state
  | .span =>
    if c = ']' then some .target
    else if c = '\x7b' then some (.field (position + 1))
    else some state
  | .field start =>
    if c = '\x7d' then do
      let field ← (dropBytes start directive).bind (takeBytes (position - start))
      if !field.isEmpty && isField field then some .fields else none
    else some state
  | .fields => if c = ']' then some .target else none
  | .target => if c = '=' then some (.level (position + 1)) else none
  | .level _ => some state

def read (directive : List Char) (position : Nat) (state : State) : List Char → Option State
  | [] => some state
  | c :: rest => do read directive (position + c.utf8Size) (← step directive position state c) rest

def levelNames : List String := ["error", "warn", "info", "debug", "trace", "off"]

/-- A level can be given as a number from zero to five. -/
def isLevelNumber (text : List Char) : Bool :=
  (natural? text).any (· ≤ 5)

def isLevel (text : List Char) : Bool :=
  text.isEmpty || isLevelNumber text || levelNames.contains (.ofList (text.map Char.toLower))

/-- Whether a text is a directive, such as `debug` or `server[request]=trace`. It is read without
the white space around it, but its fields and its level are taken from the text as it is given, at
the same positions. -/
def isDirective (text : List Char) : Bool :=
  match read text 0 .start (trim text) with
  | some .levelOrTarget | some .target => true
  | some (.level start) => (dropBytes start text).any isLevel
  | _ => false

def isValid (filter : String) : Bool :=
  ((filter.toList.splitOn ',').filter (!·.isEmpty)).all isDirective

end ClientGen.LogFilter
