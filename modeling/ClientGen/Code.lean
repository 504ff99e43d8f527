import ClientGen.Emitter

namespace ClientGen

abbrev Code := List Emitter.Op

namespace Code

def line (text : String) : Code := [.line text]

def blank : Code := [.blank]

def comment (text : String) : Code := [.comment text]

def seq (parts : List Code) : Code := parts.flatten

def lines (texts : List String) : Code := texts.map .line

/-- A head with an opening brace, pieces one level deeper, and the closing brace with what follows
it. -/
def block (head : String) (parts : List Code) (tail : String := "") : Code :=
  .line (head ++ "\x7b") :: (parts.flatten ++ [.line ("\x7d" ++ tail)])

def parens (head : String) (parts : List Code) : Code :=
  .line (head ++ "(") :: .enter :: (parts.flatten ++ [.leave, .line ")"])

def branch (condition : String) (yes no : List Code) (orElse : String := "") : Code :=
  seq [
    block ("if " ++ condition ++ " ") yes (" else " ++ orElse ++ "\x7b"),
    seq no,
    line "\x7d"]

def when (condition : Bool) (parts : List Code) : Code :=
  if condition then seq parts else []

end Code

end ClientGen
