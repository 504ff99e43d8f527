import ClientGen.Text.Printable

namespace ClientGen.Text.Quoted

/-- How one character is written between the quotes: by a short escape, by its code point, or as
itself. -/
def escape (c : Char) : List Char :=
  if c = '\x00' then ['\\', '0']
  else if c = '\t' then ['\\', 't']
  else if c = '\r' then ['\\', 'r']
  else if c = '\n' then ['\\', 'n']
  else if c = '"' then ['\\', '"']
  else if c = '\\' then ['\\', '\\']
  else if isExtending c || !isPrintable c then
    ['\\', 'u', '\x7b'] ++ Nat.toDigits 16 c.toNat ++ ['\x7d']
  else [c]

def chars (text : List Char) : List Char :=
  '"' :: text.flatMap escape ++ ['"']

end Quoted

def quoted (text : String) : String :=
  .ofList (Quoted.chars text.toList)

end ClientGen.Text
