import CommandForms.Pattern.Bracket
import CommandForms.Pattern.Weight

/-!
# Reading patterns

The syntax of delimiter patterns: alternatives, groups, counted repetitions, character classes with set
operations, properties, assertions and inline flags.  There is no look-around and there are no
back-references.  `Expr.ofPattern?` answers the expression of a pattern that is well formed, not nested too
deeply and not too heavy.
-/

namespace CommandForms.Pattern

open CommandForms.Text (CodePoints isBlank)

/-! ## Parts of patterns -/

/-- An expression with the number of levels that groups, classes, repetitions, sequences and alternatives
nest in how it is written. -/
structure Part where
  expr : Expr
  levels : Nat := 0

/-- What stands in a sequence: an expression, or a switch of flags, which matches nothing by itself. -/
inductive Item
  | part (p : Part)
  | switch

namespace Item

def levels : Item → Nat
  | .part p => p.levels
  | .switch => 0

def expr : Item → Expr
  | .part p => p.expr
  | .switch => .empty

end Item

namespace Part

/-- The sequence of items, the last one first.  Several items are a level of their own. -/
def sequence : List Item → Part
  | [] => ⟨.empty, 0⟩
  | [item] => ⟨item.expr, item.levels⟩
  | items =>
      ⟨items.foldl (fun right item => item.expr.followedBy right) .empty,
        1 + (items.map (·.levels)).foldl max 0⟩

/-- The alternative of branches, the last one first.  Several branches are a level of their own. -/
def alternative : List Part → Part
  | [] => ⟨.empty, 0⟩
  | [branch] => branch
  | branches =>
      ⟨.alternative (branches.reverse.map (·.expr)), 1 + (branches.map (·.levels)).foldl max 0⟩

def wrap (f : Expr → Expr) (p : Part) : Part :=
  ⟨f p.expr, p.levels + 1⟩

end Part

/-! ## Repetitions and groups -/

/-- Reads a decimal number of 32 bits, with blanks around it. -/
def readCount? (flags : Flags) (cs : List Char) : Option (Nat × List Char) :=
  let (digits, rest) := flags.readWhile Char.isDigit false (cs.dropWhile isBlank)
  let n := digits.foldl (fun n c => 10 * n + (c.toNat - '0'.toNat)) 0
  if digits.isEmpty ∨ 4294967296 ≤ n then none else some (n, rest.dropWhile isBlank)

/-- Whether a repetition is greedy, by the question mark that may follow it at once. -/
def readGreed (flags : Flags) : List Char → Bool × List Char
  | '?' :: rest => (flags.swapGreed, rest)
  | cs => (!flags.swapGreed, cs)

/-- Reads a counted repetition behind its opening brace. -/
def readCounted? (flags : Flags) (cs : List Char) : Option ((Expr → Expr) × List Char) := do
  let (least, rest) ← readCount? flags (flags.skip cs)
  match rest with
  | '\x7d' :: rest =>
      let (greedy, rest) := readGreed flags (flags.skip rest)
      return (.repeatBetween greedy least 0, rest)
  | ',' :: rest =>
      match flags.skip rest with
      | '\x7d' :: rest =>
          let (greedy, rest) := readGreed flags (flags.skip rest)
          return (.repeatAtLeast greedy least, rest)
      | rest =>
          let (most, rest) ← readCount? flags rest
          match rest with
          | '\x7d' :: rest =>
              let (greedy, rest) := readGreed flags (flags.skip rest)
              if least ≤ most then return (.repeatBetween greedy least (most - least), rest) else none
          | _ => none
  | _ => none

/-- Reads inline flags up to the colon or the parenthesis that ends them.  A letter may occur once, and
a hyphen in front of some letter switches what follows it off. -/
def readFlags? (flags : Flags) (on : Bool) (seen : List Char) : List Char →
    Option (Flags × Bool × List Char)
  | [] => none
  | c :: rest =>
      if c = ':' ∨ c = ')' then
        if seen.isEmpty ∧ c = ')' ∨ seen.head? = some '-' then none
        else some (flags, c = ':', rest)
      else if seen.contains c then none
      else if c = '-' then readFlags? flags false (c :: seen) rest
      else do readFlags? (← flags.set? c on) on (c :: seen) rest

def startsGroupName (c : Char) : Bool :=
  c == '_' || Text.alphabetic.contains c

def continuesGroupName (c : Char) : Bool :=
  startsGroupName c || (Text.categoryGroup 'N').contains c || c == '.' || c == '[' || c == ']'

def readGroupName? (cs : List Char) : Option (List Char × List Char) :=
  match cs.span (· ≠ '>') with
  | (first :: later, _ :: rest) =>
      if startsGroupName first && later.all continuesGroupName then some (first :: later, rest) else none
  | _ => none

/-! ## Sequences and alternatives -/

/-- What the opening of a group is followed by. -/
inductive Opening
  | group (flags : Flags) (name : Option (List Char)) (captures : Bool)
  | switch (flags : Flags)

def readOpening? (flags : Flags) (cs : List Char) : Option (Opening × List Char) :=
  let named (rest : List Char) : Option (Opening × List Char) :=
    (readGroupName? rest).map fun (name, rest) => (.group flags (some name) true, rest)
  match flags.skip cs with
  | '?' :: 'P' :: '<' :: rest => named rest
  | '?' :: '<' :: '=' :: _ => none
  | '?' :: '<' :: '!' :: _ => none
  | '?' :: '<' :: rest => named rest
  | '?' :: rest => do
      let (flags, isGroup, rest) ← readFlags? flags true [] rest
      return (if isGroup then .group flags none false else .switch flags, rest)
  | rest => some (.group flags none true, rest)

/-- Reads an atom: an escape, a dot, an assertion or a character. -/
def readAtom? (flags : Flags) : List Char → Option (Expr × List Char)
  | [] => none
  | '\\' :: rest => do
      match ← readEscape? flags rest with
      | (.char c, rest) => return (.chars (flags.fold (CharClass.ofChar c)), rest)
      | (.set set, rest) => return (.chars set, rest)
      | (.assertion a, rest) => return (.assertion a, rest)
  | '.' :: rest => do return (.chars (← flags.dot?), rest)
  | '^' :: rest => some (.assertion flags.lineStart, rest)
  | '$' :: rest => some (.assertion flags.lineEnd, rest)
  | c :: rest => some (.chars (flags.fold (CharClass.ofChar c)), rest)

/-- Reads the branches of a group up to its parenthesis, or of the whole pattern up to its end.
`bound` is greater than the length of the rest, `names` are the names of groups so far, and `branches` and
`items` are what has been read, the last one first.  The names of a pattern differ. -/
def readBranches? (flags : Flags) (inGroup : Bool) : (bound : Nat) → (names : List (List Char)) →
    (branches : List Part) → (items : List Item) → List Char →
    Option (Part × List (List Char) × List Char)
  | 0, _, _, _, _ => none
  | bound + 1, names, branches, items, cs =>
      let done := Part.alternative (Part.sequence items :: branches)
      let next (p : Part) (rest : List Char) :=
        readBranches? flags inGroup bound names branches (.part p :: items) rest
      let repeated (f : Expr → Expr) (rest : List Char) :=
        match items with
        | .part p :: items => readBranches? flags inGroup bound names branches (.part (p.wrap f) :: items) rest
        | _ => none
      let repeatedAtLeast (least : Nat) (rest : List Char) :=
        let (greedy, rest) := readGreed flags rest
        repeated (.repeatAtLeast greedy least) rest
      match flags.skip cs with
      | [] => if inGroup then none else some (done, names, [])
      | ')' :: rest => if inGroup then some (done, names, rest) else none
      | '|' :: rest =>
          readBranches? flags inGroup bound names (Part.sequence items :: branches) [] rest
      | '(' :: rest => do
          match ← readOpening? flags rest with
          | (.switch flags, rest) =>
              readBranches? flags inGroup bound names branches (.switch :: items) rest
          | (.group flags' name captures, rest) =>
              if (name.map names.contains).getD false then none
              else
                let (p, names, rest) ← readBranches? flags' true bound (name.toList ++ names) [] [] rest
                let p := p.wrap fun e => if captures then .capture e else e
                readBranches? flags inGroup bound names branches (.part p :: items) rest
      | '[' :: rest => do
          let (item, rest) ← readClass? flags (2 * rest.length + 2) rest
          next ⟨.chars item.set, item.levels⟩ rest
      | '*' :: rest => repeatedAtLeast 0 rest
      | '+' :: rest => repeatedAtLeast 1 rest
      | '?' :: rest =>
          let (greedy, rest) := readGreed flags rest
          repeated (.repeatBetween greedy 0 1) rest
      | '\x7b' :: rest => do
          let (f, rest) ← readCounted? flags rest
          repeated f rest
      | cs => do
          let (e, rest) ← readAtom? flags cs
          next ⟨e, 0⟩ rest

def deepest : Nat := 250

/-- The expression of a pattern that is well formed, not nested too deeply and not too heavy. -/
def Expr.ofPattern? (pattern : String) : Option Expr := do
  let (p, _, _) ← readBranches? {} false (pattern.toList.length + 1) [] [] [] pattern.toList
  if deepest < p.levels ∨ p.expr.isTooHeavy then none else return p.expr

end CommandForms.Pattern
