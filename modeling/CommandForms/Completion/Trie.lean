import CommandForms.Completion.Segments
import CommandForms.Text.Lowercase

/-!
# Segment tries

The options of a field as a trie of segments, and the walk that follows a raw input through it.  A child
matches when its segment and what is left of the input agree, case aside, as far as the shorter of them
goes.  The walk descends while one child matches, offers all of them when several do, and stops when none
does.
-/

namespace CommandForms

/-- What a raw input is completed to: one text, or several candidates to choose from. -/
inductive Completion
  | complete (text : String)
  | ambiguous (candidates : List String)
deriving Repr, DecidableEq

namespace Completion

open CommandForms.Text (lowercase lowerChars)

/-- A trie of segments; the children of a node stand in the order in which they were first met. -/
inductive Trie
  | node (children : List (Segment × Trie))

namespace Trie

def empty : Trie := .node []

def children : Trie → List (Segment × Trie)
  | .node children => children

/-- Changes the child under a segment; a new child starts from the empty trie. -/
def updateChild (segment : Segment) (change : Trie → Trie) :
    List (Segment × Trie) → List (Segment × Trie)
  | [] => [(segment, change empty)]
  | (s, child) :: children =>
      if s = segment then (s, change child) :: children
      else (s, child) :: updateChild segment change children

def insert : List Segment → Trie → Trie
  | [], t => t
  | segment :: path, t => .node (updateChild segment (insert path) t.children)

def ofOptions (d : Delimiter) (options : List String) : Trie :=
  options.foldl (fun t option => t.insert (segments d option.toList)) empty

mutual

def paths : Trie → List (List Segment)
  | .node [] => [[]]
  | .node (child :: children) => childPaths (child :: children)

def childPaths : List (Segment × Trie) → List (List Segment)
  | [] => []
  | (segment, child) :: children => child.paths.map (segment :: ·) ++ childPaths children

end

/-! ## Walks -/

def agree (a b : List Char) : Bool :=
  a.isPrefixOf b || b.isPrefixOf a

/-- The completion at the end of a walk; a walk that took no segment gives the raw input back. -/
def arrive (raw : String) (output : List Char) : Completion :=
  if output.isEmpty then .complete raw else .complete (String.ofList output)

mutual

/-- Walks on from a node, with `input` in lower case still to follow and `output` taken so far. -/
def walk (raw : String) (input output : List Char) : Trie → Completion
  | .node children =>
      match walkChildren raw input output children with
      | [] => arrive raw output
      | [(_, completion)] => completion
      | candidates => .ambiguous (candidates.map fun c => String.ofList (output ++ c.1))

/-- The children that match, each with the completion of the walk through it. -/
def walkChildren (raw : String) (input output : List Char) :
    List (Segment × Trie) → List (Segment × Completion)
  | [] => []
  | (segment, child) :: children =>
      let folded := lowerChars segment
      if agree folded input then
        (segment, walk raw (input.drop folded.length) (output ++ segment) child) ::
          walkChildren raw input output children
      else walkChildren raw input output children

end

def resolve (t : Trie) (raw : String) : Completion :=
  t.walk raw (lowerChars raw.toList) []

end Trie

end Completion

end CommandForms
