import ClientGen.Proto.Symbol

namespace ClientGen.Proto

open Text

/-- The files of a schema and the names that they declare. -/
structure Pool where
  files : List FileDecl
  symbols : List Symbol

namespace Pool

variable (pool : Pool)

def fileIndex? (name : String) : Option Nat :=
  pool.files.findIdx? (·.name == name)

def dependencies (file : FileDecl) : List Nat :=
  file.dependencies.filterMap pool.fileIndex?

/-- The files that a file imports on behalf of those that import it. -/
def publicDependencies (file : FileDecl) : List Nat :=
  file.publicDependencies.filterMap fun position => do
    let name ← file.dependencies[position.toInt.toNat]?
    pool.fileIndex? name

/-- Adds the public imports of a file to those reached before. An import that is met for the first
time is not followed; one that was reached before is, for at most `steps` steps. -/
def reach : (steps : Nat) → (reached : List Nat) → (index : Nat) → List Nat
  | 0, reached, _ => reached
  | steps + 1, reached, index =>
    ((pool.files[index]?.map pool.publicDependencies).getD []).foldl (fun reached next =>
      if reached.contains next then reach steps reached next else reached ++ [next]) reached

/-- The files whose names can be used in a file: itself, what it imports, and what those import
publicly. -/
def visible (index : Nat) : List Nat :=
  ((pool.files[index]?.map pool.dependencies).getD []).foldl (fun reached next =>
    pool.reach pool.files.length (reached ++ [next]) next) [index]

def lookup? (visible : List Nat) (wanted : Meaning → Bool) (name : String) : Option Symbol :=
  pool.symbols.find? fun symbol =>
    symbol.name == name && wanted symbol.meaning &&
      (symbol.meaning.isPackage || visible.contains symbol.file)

def isScope (name : String) : Bool :=
  pool.symbols.any fun symbol => symbol.name == name && symbol.meaning.isScope

def outward (scope : String) : List String :=
  (scope :: (dottedPrefixes [] scope.toList).reverse) ++ (if scope.isEmpty then [] else [""])

/-- Resolves a name as it is used in a scope. With a leading dot it is a full name. A name of one
part is searched outwards for the wanted meaning. Of other names the first part is searched outwards
for a scope, and the whole name must lie there. -/
def resolve? (visible : List Nat) (wanted : Meaning → Bool) (scope name : String) : Option Symbol :=
  match name.toList with
  | '.' :: full => pool.lookup? visible wanted (.ofList full)
  | _ =>
    match cut '.' name with
    | none => (outward scope).findSome? fun scope =>
        pool.lookup? visible wanted (qualified scope name)
    | some (first, _) => do
      let scope ← (outward scope).find? fun scope => pool.isScope (qualified scope first)
      pool.lookup? visible wanted (qualified scope name)

end Pool

end ClientGen.Proto
