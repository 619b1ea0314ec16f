import CommandForms.Files.Basic

/-!
# Trees of files

The files and directories below a working directory, and what is found when a path is followed from it.
Nothing is known of what lies outside, and nothing is found there.
-/

namespace CommandForms.Files

/-- The files and directories below a working directory, each with the names that lead to it. -/
structure Tree where
  entries : List (List String × Content)

namespace Tree

def ofList (entries : List (String × Content)) : Tree :=
  ⟨entries.map fun entry => (Path.components entry.1, entry.2)⟩

/-- What lies at a place, given by the names that lead to it.  A directory need not be listed when
something below it is. -/
def at? (tree : Tree) (place : List String) : Option Content :=
  if place = [] then some .directory
  else
    match tree.entries.lookup place with
    | some content => some content
    | none =>
        if tree.entries.any fun entry => place.isPrefixOf entry.1 then some .directory else none

def maxNameBytes : Nat := 255

def maxPathBytes : Nat := 4095

/-- Follows one piece of a path from a place; no place stands for what lies outside. -/
def follow (tree : Tree) (place : Option (List String)) (piece : String) :
    Except Fault (Option (List String)) :=
  match place with
  | none => if piece = "" ∨ piece = "." ∨ piece = ".." then .ok none else .error .notFound
  | some names =>
      match tree.at? names with
      | none => .error .notFound
      | some (.file _) => .error .notADirectory
      | some .directory =>
          if piece = "" ∨ piece = "." then .ok (some names)
          else if piece = ".." then .ok (if names = [] then none else some names.dropLast)
          else if maxNameBytes < piece.utf8ByteSize then .error .nameTooLong
          else if (tree.at? (names ++ [piece])).isSome then .ok (some (names ++ [piece]))
          else .error .notFound

def find (tree : Tree) (path : String) : Except Fault Content := do
  if path.toList.contains '\x00' then throw .zeroInPath
  if path = "" then throw .notFound
  if maxPathBytes < path.utf8ByteSize then throw .nameTooLong
  let start := if Path.isAbsolute path then none else some []
  match ← (Path.pieces path).foldlM tree.follow start with
  | none => return .directory
  | some names =>
      match tree.at? names with
      | some content => return content
      | none => throw .notFound

def files (tree : Tree) : Files :=
  ⟨tree.find⟩

end Tree

end CommandForms.Files
