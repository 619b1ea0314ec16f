import CommandForms.Pattern.Expr

/-!
# Weights

The weight of an expression is the room that an automaton over its UTF-8 bytes needs, in bytes.  A set of
characters becomes one state per node of the tree of its byte sequences when the automaton reads backwards;
when it reads forwards, equal subtrees are one state.  Patterns of a weight above `heaviest` are refused.
-/

namespace CommandForms.Pattern

open CommandForms.Text (CodePoints)

abbrev ByteRange := Nat × Nat

/-- The sequences of byte ranges that encode the values from `first` to `last`, where `groups` bytes of six
bits each follow a byte that starts from `lead`. -/
def byteSequences (lead : Nat) : (groups first last : Nat) → List (List ByteRange)
  | 0, first, last => [[(lead + first, lead + last)]]
  | groups + 1, first, last =>
      let block := 64 * Nat.pow 64 groups
      let a := first / block
      let b := last / block
      let full (a b : Nat) : List (List ByteRange) :=
        if a ≤ b then [(lead + a, lead + b) :: List.replicate (groups + 1) (0x80, 0xBF)] else []
      let inner (a first last : Nat) : List (List ByteRange) :=
        (byteSequences 0x80 groups first last).map ((lead + a, lead + a) :: ·)
      if first % block = 0 ∧ last % block = block - 1 then full a b
      else if a = b then inner a (first % block) (last % block)
      else
        let head := if first % block = 0 then [] else inner a (first % block) (block - 1)
        let tail := if last % block = block - 1 then [] else inner b 0 (last % block)
        let from' := if first % block = 0 then a else a + 1
        let until' := if last % block = block - 1 then b + 1 else b
        head ++ (if from' < until' then full from' (until' - 1) else []) ++ tail

/-- The lengths of encodings: the first and last character, the lead byte, and the bytes that follow. -/
def encodingLengths : List (Nat × Nat × Nat × Nat) :=
  [(0, 0x7F, 0, 0), (0x80, 0x7FF, 0xC0, 1), (0x800, 0xD7FF, 0xE0, 2), (0xE000, 0xFFFF, 0xE0, 2),
    (0x10000, 0x10FFFF, 0xF0, 3)]

/-- The sequences of byte ranges that encode a set, in ascending order. -/
def encodings (s : CodePoints) : List (List ByteRange) :=
  s.spans.flatMap fun (a, b) =>
    encodingLengths.flatMap fun (first, last, lead, groups) =>
      if max a first ≤ min b last then byteSequences lead groups (max a first) (min b last) else []

/-- The number of different beginnings of sequences in order, which is the number of nodes of their tree. -/
def countBeginnings (previous : List ByteRange) : List (List ByteRange) → Nat
  | [] => 0
  | s :: rest =>
      let common := ((previous.zip s).takeWhile fun (a, b) => a == b).length
      (s.length - common) + countBeginnings s rest

/-- The subtrees of the tree of sequences, each written as numbers beside the number of its branches; the
whole tree comes first. -/
def subtrees : (depth : Nat) → List (List ByteRange) → List (List Nat × Nat)
  | 0, _ => []
  | depth + 1, sequences =>
      let branches := sequences.splitBy fun a b => a.head? == b.head?
      let parts : List (List Nat × List (List Nat × Nat)) := branches.map fun branch =>
        let rest := (branch.map List.tail).filter (!·.isEmpty)
        let trees := if rest.isEmpty then [] else subtrees depth rest
        let (first, last) := ((branch.head?.bind List.head?).getD (0, 0))
        (first :: last :: (trees.head?.map (·.1)).getD [], trees)
      let name := parts.flatMap fun (name, _) => name.length :: name
      (name, branches.length) :: parts.flatMap (·.2)

def stateWeight : Nat := 32

def setWeight (backwards : Bool) (s : CodePoints) : Nat :=
  if s.isSingle then stateWeight * ((encodings s).map List.length).foldl max 0
  else if s.isAscii then 2 * stateWeight + 8 * s.spans.length
  else
    let sequences := encodings s
    if backwards then
      stateWeight * (2 + countBeginnings [] sequences) + 4 * sequences.length
    else
      let nodes := (subtrees 4 sequences).eraseDups
      stateWeight * (1 + nodes.length) + 8 * nodes.foldl (fun total node => total + node.2) 0

namespace Expr

/-- What a branch weighs in an alternative; all branches share two states. -/
def branchWeight (weight : Nat) : Expr → Nat
  | .alt .. => weight - 2 * stateWeight
  | _ => weight + 4

/-- The weight of an expression.  Only an automaton that reads forwards keeps captures. -/
def weight (backwards : Bool) : Expr → Nat
  | .empty => stateWeight
  | .chars set => setWeight backwards set
  | .assertion _ => stateWeight
  | .seq a b => a.weight backwards + b.weight backwards
  | .alt a b =>
      branchWeight (a.weight backwards) a + branchWeight (b.weight backwards) b + 2 * stateWeight
  | .capture e => e.weight backwards + if backwards then 0 else 2 * stateWeight
  | .atLeast _ 0 e =>
      e.weight backwards + if e.isNullable then 3 * stateWeight + 16 else stateWeight + 8
  | .atLeast _ (least + 1) e => (least + 1) * e.weight backwards + stateWeight + 8
  | .between _ least 0 e => least * e.weight backwards
  | .between _ least (more + 1) e =>
      least * e.weight backwards + (if least = 0 ∧ 0 < more then 2 else 1) * stateWeight +
        (more + 1) * (e.weight backwards + stateWeight + 8)

def heaviest : Nat := 10485760

def frameWeight : Nat := 208

def isTooHeavy (e : Expr) : Bool :=
  heaviest < max (e.weight true) (e.weight false) + frameWeight

end Expr

end CommandForms.Pattern
