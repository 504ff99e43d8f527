import ClientGen.Pattern.Flags
import ClientGen.Text.Numeral

namespace ClientGen.Pattern

open Text

inductive Atom
  | char (c : Char)
  | set
  | place
deriving DecidableEq, Repr

/-- A pattern about bytes has the bytes of ASCII only: no other byte is text by itself. -/
def Flags.hasByte (flags : Flags) (c : Char) : Bool :=
  flags.unicode || c.toNat < 0x80

def controls : List (Char × Char) :=
  [('a', '\x07'), ('f', '\x0c'), ('t', '\t'), ('n', '\n'), ('r', '\r'), ('v', '\x0b')]

def categories : List Char := ['C', 'L', 'M', 'N', 'P', 'S', 'Z']

def readHex (flags : Flags) : (count value : Nat) → List Char → Option (Nat × List Char)
  | 0, value, text => some (value, text)
  | count + 1, value, text =>
    match flags.skip text with
    | [] => none
    | c :: rest => do readHex flags count (16 * value + (← hexDigit? c)) rest

def readCode (flags : Flags) (count : Nat) (text : List Char) : Option (Char × List Char) := do
  let (value, rest) ← readHex flags count 0 text
  if value.isValidChar then return (.ofNat value, rest) else none

def readCategory (flags : Flags) (text : List Char) : Option (List Char) :=
  match flags.skip text with
  | [] => none
  | c :: rest => if flags.unicode && categories.contains c.toUpper then some rest else none

/-- Reads what follows a backslash. The complement of a set of bytes would not be text. No automaton
finds the boundaries of words among characters, so only those among bytes can be asked for. -/
def readEscape (flags : Flags) : List Char → Option (Atom × List Char)
  | [] => none
  | c :: rest =>
    match c with
    | 'x' => do
      let (value, rest) ← readCode flags 2 rest
      if flags.hasByte value then return (.char value, rest) else none
    | 'u' => (readCode flags 4 rest).map fun (value, rest) => (.char value, rest)
    | 'U' => (readCode flags 8 rest).map fun (value, rest) => (.char value, rest)
    | 'p' | 'P' => (readCategory flags rest).map (.set, ·)
    | 'd' | 's' | 'w' => some (.set, rest)
    | 'D' | 'S' | 'W' => if flags.unicode then some (.set, rest) else none
    | 'A' | 'z' => some (.place, rest)
    | 'b' | 'B' | '<' | '>' => if flags.unicode then none else some (.place, rest)
    | c =>
      match controls.lookup c with
      | some control => some (.char control, rest)
      | none => if c.toNat < 0x80 && !c.isAlphanum then some (.char c, rest) else none

def readAtom (flags : Flags) : List Char → Option (Atom × List Char)
  | [] => none
  | '\\' :: rest => readEscape flags rest
  | c :: rest => some (.char c, rest)

end ClientGen.Pattern
