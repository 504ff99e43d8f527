import ClientGen.Text.Blank
import ClientGen.Text.Split

namespace ClientGen

open Text

/-- Text under construction, and how deep the next line is indented. -/
structure Emitter where
  text : String := ""
  level : Nat := 0
deriving DecidableEq, Repr

inductive Emitter.Op
  | line (template : String)
  | blank
  | comment (text : String)
  | enter
  | leave
deriving DecidableEq, Repr

namespace Emitter

def push (em : Emitter) (text : String) : Emitter :=
  { em with text := em.text ++ text }

def indented (level : Nat) (text : List Char) : List Char :=
  List.replicate level '\t' ++ text ++ ['\n']

def writeIndented (em : Emitter) (text : List Char) : Emitter :=
  em.push (.ofList (indented em.level text))

def closers (text : List Char) : Nat :=
  (text.takeWhile (· == '\x7d')).length

def openers (text : List Char) : Nat :=
  (text.reverse.takeWhile (· == '\x7b')).length

/-- Writes one line. Braces at its start close levels, and braces at its end open them. -/
def line (em : Emitter) (template : String) : Emitter :=
  let text := trim template.toList
  if text.isEmpty then em.push "\n"
  else
    let em := { em with level := em.level - closers text }.writeIndented text
    { em with level := em.level + openers text }

def blank (em : Emitter) : Emitter :=
  em.push "\n"

/-- A line of a comment: its text after two slashes, from which a space sets it apart. -/
def commentLine (line : List Char) : List Char :=
  match trimEnd line with
  | [] => ['/', '/']
  | ' ' :: rest => '/' :: '/' :: ' ' :: rest
  | text => '/' :: '/' :: ' ' :: text

/-- Writes each line of a text as a comment. Braces do not count. -/
def comment (em : Emitter) (text : String) : Emitter :=
  (lines (trimEnd text.toList)).foldl (fun em line => em.writeIndented (commentLine line)) em

def enter (em : Emitter) : Emitter :=
  { em with level := em.level + 1 }

def leave (em : Emitter) : Emitter :=
  { em with level := em.level - 1 }

def apply (em : Emitter) : Op → Emitter
  | .line template => em.line template
  | .blank => em.blank
  | .comment text => em.comment text
  | .enter => em.enter
  | .leave => em.leave

def run (em : Emitter) (ops : List Op) : Emitter :=
  ops.foldl apply em

theorem run_append (em : Emitter) (xs ys : List Op) :
    em.run (xs ++ ys) = (em.run xs).run ys :=
  List.foldl_append

def render (ops : List Op) : String :=
  (({} : Emitter).run ops).text

end Emitter

end ClientGen
