import ClientGen.Json.Value

namespace ClientGen.Json

def Number.write : Number → List Char
  | .integer negative magnitude =>
    (if negative then ['-'] else []) ++ Nat.toDigits 10 magnitude
  | .decimal numeral => numeral.toList

def writeChar (c : Char) : List Char :=
  if c = '"' then ['\\', '"']
  else if c = '\\' then ['\\', '\\']
  else if c = '\n' then ['\\', 'n']
  else if c = '\r' then ['\\', 'r']
  else if c = '\t' then ['\\', 't']
  else if c = '\x08' then ['\\', 'b']
  else if c = '\x0c' then ['\\', 'f']
  else if c.toNat < 0x20 then
    ['\\', 'u', '0', '0'] ++ [Nat.digitChar (c.toNat / 16), Nat.digitChar (c.toNat % 16)]
  else [c]

/-- A string that denotes no text is written as half a surrogate pair. -/
def writeString : Option String → List Char
  | some text => '"' :: text.toList.flatMap writeChar ++ ['"']
  | none => ['"', '\\', 'u', 'd', '8', '0', '0', '"']

mutual

def write : Json → List Char
  | .null => ['n', 'u', 'l', 'l']
  | .bool true => ['t', 'r', 'u', 'e']
  | .bool false => ['f', 'a', 'l', 's', 'e']
  | .number value => value.write
  | .string text => writeString text
  | .array [] => ['[', ']']
  | .array (item :: items) => '[' :: (write item ++ (writeItems items ++ [']']))
  | .object [] => ['\x7b', '\x7d']
  | .object ((key, value) :: members) =>
    '\x7b' :: (writeString key ++ ':' :: (write value ++ (writeMembers members ++ ['\x7d'])))

def writeItems : List Json → List Char
  | [] => []
  | item :: items => ',' :: (write item ++ writeItems items)

def writeMembers : List (Option String × Json) → List Char
  | [] => []
  | (key, value) :: members =>
    ',' :: (writeString key ++ ':' :: (write value ++ writeMembers members))

end

end ClientGen.Json
