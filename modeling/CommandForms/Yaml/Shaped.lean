import CommandForms.Yaml.Core
import CommandForms.Yaml.Layout

/-!
# Reading YAML of a given shape

Readers that ask a node for a text, a truth value, a list, a record or untyped data.  Aliases are followed
where a value is asked for, up to a number of times that the size of the document sets, and collections
may be nested up to a limit.
-/

namespace CommandForms.Yaml

def depthLimit : Nat := 128

/-- A reader of a document with the given anchors; it counts the aliases that may still be followed. -/
abbrev Reader (α : Type) := ReaderT Anchors (StateT Nat Option) α

def follow : Node → Reader Node
  | .alias number => do
      match ← get with
      | 0 => failure
      | left + 1 =>
          set left
          match (← read).node? number with
          | some node => return node
          | none => failure
  | node => return node

/-! ## Shapes -/

def asText (node : Node) : Reader String := do
  match ← follow node with
  | .scalar _ _ text => return text
  | _ => failure

/-- A truth value: a word for it, plain or as a literal block with the tag of the type. -/
def asBool (node : Node) : Reader Bool := do
  match ← follow node with
  | .scalar tag style text =>
      if style = .plain ∨ style = .literal ∧ tag = some (coreTag "bool") then
        match boolWord? text with
        | some b => return b
        | none => failure
      else failure
  | _ => failure

/-- Whether a scalar stands for a missing value; nothing when its tag says so and its text does not. -/
def isMissing? (tag : Option Tag) (style : Style) (text : String) : Option Bool :=
  if style ≠ .plain then some false
  else if tag = some (coreTag "null") then if isNullWord text then some true else none
  else if tag.isSome then some false
  else some (text = "" ∨ isNullWord text)

def asOptionalText (node : Node) : Reader (Option String) := do
  match ← follow node with
  | .scalar tag style text =>
      match isMissing? tag style text with
      | some true => return none
      | some false => return some text
      | none => failure
  | _ => failure

/-- The items of a sequence; nothing written is the empty one. -/
def itemsOf (node : Node) : Reader (List Node) := do
  match ← follow node with
  | .sequence _ items => return items
  | .scalar _ .plain "" => return []
  | _ => failure

/-- The entries of a mapping; nothing written is the empty one. -/
def entriesOf (node : Node) : Reader (List (Node × Node)) := do
  match ← follow node with
  | .mapping _ entries => return entries
  | .scalar _ .plain "" => return []
  | _ => failure

def inside : (depth : Nat) → Reader Nat
  | 0 => failure
  | depth + 1 => return depth

def asList {α : Type} (depth : Nat) (item : Nat → Node → Reader α) (node : Node) :
    Reader (List α) := do
  match ← itemsOf node with
  | [] => return []
  | items => items.mapM (item (← inside depth))

def asTexts (depth : Nat) (node : Node) : Reader (List String) :=
  asList depth (fun _ => asText) node

/-- A record.  Every declared field may be given once, and other entries are passed over. -/
def asRecord {σ : Type} (fields : List String) (set : Nat → σ → String → Node → Reader σ) (start : σ)
    (depth : Nat) (node : Node) : Reader σ := do
  match ← entriesOf node with
  | [] => return start
  | entries => go (← inside depth) [] start entries
where
  /-- Reads the entries one after the other. -/
  go (depth : Nat) (seen : List String) (state : σ) : List (Node × Node) → Reader σ
    | [] => return state
    | (key, value) :: entries => do
        let field ← asText key
        if fields.contains field then
          if seen.contains field then failure
          else go depth (field :: seen) (← set depth state field value) entries
        else go depth seen state entries

/-! ## Untyped data -/

def asScalar (tag : Option Tag) (style : Style) (text : String) : Reader Data :=
  match scalarData? tag style text with
  | some d => return d
  | none => failure

/-- Untyped data.  Collections of an application's own type are refused. -/
def asData : (depth : Nat) → Node → Reader Data
  | 0, node => do
      match ← follow node with
      | .scalar tag style text => asScalar tag style text
      | _ => failure
  | depth + 1, node => do
      match ← follow node with
      | .scalar tag style text => asScalar tag style text
      | .sequence tag items =>
          if tag.any Tag.namesOwnType then failure
          else return .sequence (← items.mapM (asData depth))
      | .mapping tag entries =>
          if tag.any Tag.namesOwnType then failure
          else
            return .mapping (← entries.mapM fun entry => do
              return (← asData depth entry.1, ← asData depth entry.2))
      | .alias _ => failure

/-! ## Documents -/

mutual

/-- The number of marks that a node leaves in a document: one for a scalar or an alias, and one at either
end of a collection. -/
def Node.marks : Node → Nat
  | .scalar .. | .alias _ => 1
  | .sequence _ items => 2 + itemMarks items
  | .mapping _ entries => 2 + entryMarks entries

def itemMarks : List Node → Nat
  | [] => 0
  | node :: nodes => node.marks + itemMarks nodes

def entryMarks : List (Node × Node) → Nat
  | [] => 0
  | (key, value) :: entries => key.marks + value.marks + entryMarks entries

end

def aliasesPerMark : Nat := 100

def readDocument? {α : Type} (reader : Nat → Node → Reader α) (text : String) : Option α := do
  let document ← Document.ofTokens? (← Token.ofText? text)
  let (value, _) ← (reader depthLimit document.root).run document.anchors
    |>.run (aliasesPerMark * document.root.marks)
  return value

end CommandForms.Yaml
