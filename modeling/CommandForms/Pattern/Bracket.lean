import CommandForms.Pattern.Escape

/-!
# Bracketed classes

Classes between brackets: characters, ranges, escapes, named ASCII classes and nested classes, with
intersections and differences between them.
-/

namespace CommandForms.Pattern

open CommandForms.Text (CodePoints)

/-- A set with the number of levels that brackets, unions and operations nest in how it is written. -/
structure ClassItem where
  set : CodePoints
  levels : Nat := 0

/-- Items next to each other, the last one first.  Several items are a level of their own. -/
def ClassItem.unionOf : List ClassItem → ClassItem
  | [] => ⟨.empty, 0⟩
  | [item] => item
  | items => ⟨.unionOf (items.map (·.set)), 1 + (items.map (·.levels)).foldl max 0⟩

/-- An operation between two sets of a class. -/
inductive SetOp
  | inter
  | diff
  | symmDiff

def SetOp.apply : SetOp → CodePoints → CodePoints → CodePoints
  | .inter, a, b => a.inter b
  | .diff, a, b => a.diff b
  | .symmDiff, a, b => a.symmDiff b

def setOp? : List Char → Option (SetOp × List Char)
  | '&' :: '&' :: rest => some (.inter, rest)
  | '-' :: '-' :: rest => some (.diff, rest)
  | '~' :: '~' :: rest => some (.symmDiff, rest)
  | _ => none

abbrev Pending := Option (ClassItem × SetOp)

/-- Closes an operand, the last of its items first, and applies the operation in front of it.  Case is
set aside in each operand. -/
def Pending.close (pending : Pending) (flags : Flags) (items : List ClassItem) : ClassItem :=
  let right := ClassItem.unionOf items
  let right := { right with set := flags.fold right.set }
  match pending with
  | none => right
  | some (left, op) => ⟨op.apply left.set right.set, 1 + max left.levels right.levels⟩

/-- Reads an ASCII class behind its opening bracket.  What is not one may still be a nested class. -/
def readPosixClass? : List Char → Option (CodePoints × Bool × List Char)
  | ':' :: rest =>
      let (negated, rest) := match rest with
        | '^' :: rest' => (true, rest')
        | _ => (false, rest)
      match rest.dropWhile (· ≠ ':') with
      | ':' :: ']' :: rest' => do
          let set ← CharClass.posixClasses.lookup (String.ofList (rest.takeWhile (· ≠ ':')))
          return (set, negated, rest')
      | _ => none
  | _ => none

/-- Reads one character or escape of a class.  Outside Unicode text only characters of ASCII may stand in
a class. -/
def readClassAtom? (flags : Flags) (cs : List Char) : Option (Escape × List Char) := do
  let (atom, rest) ← match cs with
    | [] => none
    | '\\' :: rest => readEscape? flags rest
    | c :: rest => some (.char c, rest)
  match atom with
  | .char c => if flags.unicode ∨ c.toNat < 0x80 then return (atom, rest) else none
  | _ => return (atom, rest)

/-- Reads a character, a range or an escape of a class. -/
def readClassRange? (flags : Flags) (cs : List Char) : Option (CodePoints × List Char) := do
  let (first, rest) ← readClassAtom? flags cs
  let rest := flags.skip rest
  let alone : Option (CodePoints × List Char) :=
    match first with
    | .char c => some (CharClass.ofChar c, rest)
    | .set set => some (set, rest)
    | .assertion _ => none
  match rest with
  | '-' :: rest' =>
      match flags.peek rest' with
      | some ']' => alone
      | some '-' => alone
      | _ =>
          let (last, rest) ← readClassAtom? flags (flags.skip rest')
          match first, last with
          | .char a, .char b => if a ≤ b then some (CharClass.ofRange a b, rest) else none
          | _, _ => none
  | _ => alone

/-- The hyphens and the closing bracket that stand for themselves at the front of a class. -/
def leadingItems (flags : Flags) (cs : List Char) : List ClassItem × List Char :=
  let (hyphens, rest) := flags.readWhile (· = '-') false cs
  let items := hyphens.map fun c => ⟨CharClass.ofChar c, 0⟩
  match rest with
  | ']' :: rest' => if items.isEmpty then ([⟨CharClass.ofChar ']', 0⟩], rest') else (items, rest)
  | _ => (items, rest)

mutual

/-- Reads a class behind its opening bracket.  `bound` is greater than twice the length of the rest. -/
def readClass? (flags : Flags) : (bound : Nat) → List Char → Option (ClassItem × List Char)
  | 0, _ => none
  | bound + 1, cs =>
      let (negated, rest) : Bool × List Char := match flags.skip cs with
        | '^' :: rest => (true, rest)
        | rest => (false, rest)
      let (items, rest) := leadingItems flags rest
      do
        let (item, rest) ← readClassItems? flags bound none items rest
        return (⟨← flags.signed? negated item.set, item.levels + 1⟩, rest)

/-- Reads the items of a class up to its closing bracket; `items` are those read since the operation
`pending`. -/
def readClassItems? (flags : Flags) : (bound : Nat) → Pending → List ClassItem → List Char →
    Option (ClassItem × List Char)
  | 0, _, _, _ => none
  | bound + 1, pending, items, cs =>
      match flags.skip cs with
      | [] => none
      | ']' :: rest => some (pending.close flags items, rest)
      | '[' :: rest =>
          match readPosixClass? rest with
          | some (set, negated, rest') => do
              readClassItems? flags bound pending (⟨← flags.signed? negated set, 0⟩ :: items) rest'
          | none => do
              let (item, rest') ← readClass? flags bound rest
              readClassItems? flags bound pending (item :: items) rest'
      | cs =>
          match setOp? cs with
          | some (op, rest) =>
              readClassItems? flags bound (some (pending.close flags items, op)) [] rest
          | none => do
              let (set, rest) ← readClassRange? flags cs
              readClassItems? flags bound pending (⟨set, 0⟩ :: items) rest

end

end CommandForms.Pattern
