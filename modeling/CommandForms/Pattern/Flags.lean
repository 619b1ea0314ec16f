import CommandForms.Pattern.Expr

/-!
# Flags

The modes of patterns, what they make of sets of characters and of points, circumflexes and dollar signs,
and what the spaced mode passes over.
-/

namespace CommandForms.Pattern

open CommandForms.Text (CodePoints isBlank)

/-- The modes that inline flags switch. -/
structure Flags where
  anyCase : Bool := false
  multiLine : Bool := false
  dotAll : Bool := false
  swapGreed : Bool := false
  unicode : Bool := true
  carriageReturns : Bool := false
  spaced : Bool := false
deriving Repr, DecidableEq

namespace Flags

def set? (flags : Flags) (letter : Char) (on : Bool) : Option Flags :=
  match letter with
  | 'i' => some { flags with anyCase := on }
  | 'm' => some { flags with multiLine := on }
  | 's' => some { flags with dotAll := on }
  | 'U' => some { flags with swapGreed := on }
  | 'u' => some { flags with unicode := on }
  | 'R' => some { flags with carriageReturns := on }
  | 'x' => some { flags with spaced := on }
  | _ => none

/-- A set under the modes: with its case variants when case does not matter. -/
def fold (flags : Flags) (set : CodePoints) : CodePoints :=
  if flags.anyCase then CharClass.anyCase flags.unicode set else set

/-- The complement of a set; only Unicode text has one. -/
def compl? (flags : Flags) (set : CodePoints) : Option CodePoints :=
  if flags.unicode then some set.compl else none

/-- The set of a class that may be negated: case comes before negation. -/
def signed? (flags : Flags) (negated : Bool) (set : CodePoints) : Option CodePoints :=
  if negated then flags.compl? (flags.fold set) else some (flags.fold set)

/-- The set of the dot; only Unicode text has one. -/
def dot? (flags : Flags) : Option CodePoints :=
  if !flags.unicode then none
  else if flags.dotAll then some .all
  else if flags.carriageReturns then some (CodePoints.ofList [0xA, 0xD]).compl
  else some (CodePoints.single 0xA).compl

def lineStart (flags : Flags) : Assertion :=
  if flags.multiLine then .lineStart flags.carriageReturns else .textStart

def lineEnd (flags : Flags) : Assertion :=
  if flags.multiLine then .lineEnd flags.carriageReturns else .textEnd

end Flags

/-! ## The spaced mode -/

/-- Drops spaces and comments; a comment ends with its line. -/
def skipComments (inComment : Bool) : List Char → List Char
  | [] => []
  | c :: cs =>
      if inComment then skipComments (c ≠ '\n') cs
      else if c = '#' then skipComments true cs
      else if isBlank c then skipComments false cs
      else c :: cs

def Flags.skip (flags : Flags) (cs : List Char) : List Char :=
  if flags.spaced then skipComments false cs else cs

/-- Reads characters that pass a test, and drops what the spaced mode passes over in front of them,
between them and behind them. -/
def Flags.readWhile (flags : Flags) (test : Char → Bool) (inComment : Bool) :
    List Char → List Char × List Char
  | [] => ([], [])
  | c :: cs =>
      if inComment then flags.readWhile test (c ≠ '\n') cs
      else if flags.spaced ∧ c = '#' then flags.readWhile test true cs
      else if flags.spaced ∧ isBlank c then flags.readWhile test false cs
      else if test c then
        let (read, rest) := flags.readWhile test false cs
        (c :: read, rest)
      else ([], c :: cs)

/-- The character that decides whether a hyphen in a class is the hyphen of a range: the next one, or in
the spaced mode the next one behind spaces and behind the mark of one comment. -/
def Flags.peek (flags : Flags) (cs : List Char) : Option Char :=
  if flags.spaced then
    match cs.dropWhile isBlank with
    | '#' :: rest => (rest.dropWhile isBlank).head?
    | rest => rest.head?
  else cs.head?

end CommandForms.Pattern
