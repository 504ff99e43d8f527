import ClientGen.Command.System
import ClientGen.Text.Split

namespace ClientGen

open Text

abbrev Path := List String

/-- Files with their contents, and directories. The root is always there. -/
structure FileTree where
  files : List (Path × Wire.Bytes) := []
  dirs : List Path := []

namespace FileTree

def isFile (tree : FileTree) (path : Path) : Bool :=
  tree.files.any (·.1 == path)

def isDir (tree : FileTree) (path : Path) : Bool :=
  path.isEmpty || tree.dirs.contains path

def isName (name : String) : Bool :=
  !name.toList.contains '\x00' && name.utf8ByteSize ≤ 255

def pathLimit : Nat := 4096

/-- The names in the text of a path. Empty names and single dots lead nowhere. -/
def names (path : String) : List String :=
  (pieces '/' path).filter fun name => !name.isEmpty && name != "."

def put (tree : FileTree) (path : Path) (content : Wire.Bytes) : FileTree :=
  { tree with files := tree.files.filter (·.1 != path) ++ [(path, content)] }

def addDir (tree : FileTree) (path : Path) : FileTree :=
  if tree.isDir path then tree else { tree with dirs := tree.dirs ++ [path] }

/-- Makes the directories that lead from `here` along names, up to the first that cannot be made. -/
def makeDirs (tree : FileTree) (here : Path) : List String → FileTree × Option Path
  | [] => (tree, some here)
  | ".." :: rest => makeDirs tree here.dropLast rest
  | name :: rest =>
    if !isName name || tree.isFile (here ++ [name]) then (tree, none)
    else makeDirs (tree.addDir (here ++ [name])) (here ++ [name]) rest

/-- Writes a file, and the directories that lead to it. The text of the path must end in a name. -/
def write (tree : FileTree) (path : String) (content : Wire.Bytes) : FileTree × Bool :=
  if pathLimit ≤ path.utf8ByteSize then (tree, false)
  else
    match tree.makeDirs [] (names path).dropLast with
    | (tree, none) => (tree, false)
    | (tree, some here) =>
      match (pieces '/' path).getLast? with
      | none | some "" | some "." | some ".." => (tree, false)
      | some name =>
        if !isName name || tree.isDir (here ++ [name]) then (tree, false)
        else (tree.put (here ++ [name]) content, true)

def follow (tree : FileTree) (here : Path) : List String → Option Path
  | [] => some here
  | name :: rest =>
    if !tree.isDir here then none
    else if name = ".." then follow tree here.dropLast rest
    else follow tree (here ++ [name]) rest

def read? (tree : FileTree) (path : String) : Option Wire.Bytes := do
  let place ← tree.follow [] (names path)
  if (pieces '/' path).getLast?.any fun name => name.isEmpty || name = "." then none
  else tree.files.lookup place

def below (tree : FileTree) (dir : Path) : List (Path × Wire.Bytes) :=
  tree.files.filterMap fun (path, content) =>
    (dir.isPrefixOf? path).map fun rest => (rest, content)

/-- A file tree as a system, with what standard input gives. -/
def system (input : Wire.Bytes) : System (StateM FileTree) where
  readInput := pure input
  readFile path := do return (← get).read? path
  writeFile path content := modifyGet fun tree =>
    let (tree, written) := tree.write path content.toUTF8.toList
    (written, tree)

end FileTree

end ClientGen
