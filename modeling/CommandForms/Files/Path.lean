/-!
# Paths

Paths are texts whose pieces are separated by slashes.  Empty pieces and single points say nothing, except
for a point in front; what is left are the components of the path.
-/

namespace CommandForms.Path

def split : List Char → List (List Char)
  | [] => [[]]
  | c :: cs =>
      match split cs with
      | [] => [[c]]
      | piece :: pieces => if c = '/' then [] :: piece :: pieces else (c :: piece) :: pieces

def pieces (path : String) : List String :=
  (split path.toList).map String.ofList

def isAbsolute (path : String) : Bool :=
  path.toList.head? == some '/'

/-- The pieces of a path, each with whether it is a component. -/
def markedPieces (path : String) : List (String × Bool) :=
  match pieces path with
  | [] => []
  | piece :: rest => (piece, piece ≠ "") :: rest.map fun p => (p, p ≠ "" ∧ p ≠ ".")

def components (path : String) : List String :=
  ((markedPieces path).filter (·.2)).map (·.1)

/-- The name of the file that a path means, when its last component is a name. -/
def fileName? (path : String) : Option String :=
  match (components path).getLast? with
  | some name => if name = "." ∨ name = ".." then none else some name
  | none => none

/-- What follows the last point of a file's name, when something stands in front of that point. -/
def extension? (path : String) : Option String := do
  let name ← fileName? path
  let back := name.toList.reverse
  match back.dropWhile (· ≠ '.') with
  | [] => none
  | [_] => none
  | _ => some (String.ofList (back.takeWhile (· ≠ '.')).reverse)

/-- The path of what `path` means seen from `base`. -/
def join (base path : String) : String :=
  if isAbsolute path then path
  else if base = "" ∨ base.toList.getLast? = some '/' then base ++ path
  else base ++ "/" ++ path

/-- The path of the directory that holds what `path` means; the working directory when the path does not
say it. -/
def directory (path : String) : String :=
  match (markedPieces path).reverse.dropWhile (!·.2) with
  | [] => "."
  | _ :: before =>
      match before.dropWhile (!·.2) with
      | [] => if isAbsolute path then "/" else "."
      | rest => "/".intercalate (rest.reverse.map (·.1))

end CommandForms.Path
