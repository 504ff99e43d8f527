import ClientGen.Wire.Varint

namespace ClientGen

structure System (m : Type → Type) where
  /-- The bytes of standard input. -/
  readInput : m Wire.Bytes
  /-- The bytes of a file, if it can be read. -/
  readFile : (path : String) → m (Option Wire.Bytes)
  /-- Writes a text to a file and makes the directories above it. Answers whether that succeeds. -/
  writeFile : (path content : String) → m Bool

/-- The path of a name in a directory. A name that begins at the root stays as it is. -/
def joinPath (dir name : String) : String :=
  if name.toList.head? = some '/' || dir.isEmpty then name
  else if dir.toList.getLast? = some '/' then dir ++ name
  else dir ++ "/" ++ name

end ClientGen
