import CommandForms.Pattern.CharClass

/-!
# Regular expressions

Expressions over characters.  Where several matches start at one place, the expression's own order of
preference decides: the left branch of an alternative before the right one, more repetitions before fewer
unless the repetition is reluctant.
-/

namespace CommandForms.Pattern

open CommandForms.Text (CodePoints)

/-- A condition on the place between two characters. -/
inductive Assertion
  | textStart
  | textEnd
  | lineStart (carriageReturns : Bool)
  | lineEnd (carriageReturns : Bool)
  | wordBoundary (unicode : Bool)
  | notWordBoundary (unicode : Bool)
  | wordStart (unicode : Bool)
  | wordEnd (unicode : Bool)
  | wordStartHalf (unicode : Bool)
  | wordEndHalf (unicode : Bool)
deriving Repr, DecidableEq

/-- A regular expression.  A repetition has a least count and, unless it is unbounded, a number of
further repetitions that it may add.  A capture matches as the expression in it. -/
inductive Expr
  | empty
  | chars (set : CodePoints)
  | assertion (a : Assertion)
  | seq (a b : Expr)
  | alt (a b : Expr)
  | capture (e : Expr)
  | atLeast (greedy : Bool) (least : Nat) (e : Expr)
  | between (greedy : Bool) (least more : Nat) (e : Expr)
deriving Repr, DecidableEq

/-- A place in a text: the character in front of it and the characters behind it. -/
structure Cursor where
  before : Option Char
  rest : List Char
deriving Repr, DecidableEq

namespace Assertion

/-- Whether a character, if there is one, belongs to a word. -/
def isWord (unicode : Bool) : Option Char → Bool
  | none => false
  | some c => (CharClass.word unicode).contains c

def holds (a : Assertion) (place : Cursor) : Bool :=
  let after := place.rest.head?
  match a with
  | .textStart => place.before.isNone
  | .textEnd => place.rest.isEmpty
  | .lineStart false => place.before.isNone || place.before == some '\n'
  | .lineStart true =>
      place.before.isNone || place.before == some '\n' ||
        (place.before == some '\r' && after != some '\n')
  | .lineEnd false => place.rest.isEmpty || after == some '\n'
  | .lineEnd true =>
      place.rest.isEmpty || after == some '\r' || (after == some '\n' && place.before != some '\r')
  | .wordBoundary u => isWord u place.before != isWord u after
  | .notWordBoundary u => isWord u place.before == isWord u after
  | .wordStart u => !isWord u place.before && isWord u after
  | .wordEnd u => isWord u place.before && !isWord u after
  | .wordStartHalf u => !isWord u place.before
  | .wordEndHalf u => !isWord u after

end Assertion

namespace Expr

/-- An expression is widthless when all its matches are empty. -/
def isWidthless : Expr → Bool
  | .empty => true
  | .chars _ => false
  | .assertion _ => true
  | .seq a b => a.isWidthless && b.isWidthless
  | .alt a b => a.isWidthless && b.isWidthless
  | .capture e => e.isWidthless
  | .atLeast _ _ e => e.isWidthless
  | .between _ _ _ e => e.isWidthless

/-- Whether an expression may match the empty text, assertions set aside. -/
def isNullable : Expr → Bool
  | .empty => true
  | .chars _ => false
  | .assertion _ => true
  | .seq a b => a.isNullable && b.isNullable
  | .alt a b => a.isNullable || b.isNullable
  | .capture e => e.isNullable
  | .atLeast _ least e => least == 0 || e.isNullable
  | .between _ least _ e => least == 0 || e.isNullable

/-- The sequence of two expressions; nothing is written for an empty one. -/
def followedBy : Expr → Expr → Expr
  | .empty, b => b
  | a, .empty => a
  | a, b => .seq a b

/-- The branches of an alternative; any other expression is its only branch. -/
def branches : Expr → List Expr
  | .alt a b => a.branches ++ b.branches
  | e => [e]

def set? : Expr → Option CodePoints
  | .chars set => some set
  | _ => none

def firstOf : List Expr → Expr
  | [] => .empty
  | [e] => e
  | e :: es => .alt e (firstOf es)

/-- The alternative of some expressions.  Single characters are one set, and so are sets of several. -/
def alternative (es : List Expr) : Expr :=
  let es := es.flatMap branches
  match es.mapM set? with
  | some sets =>
      if sets.all CodePoints.isSingle || !sets.any CodePoints.isSingle then .chars (.unionOf sets)
      else firstOf es
  | none => firstOf es

/-- From `least` to `least + more` repetitions.  Repeating what is widthless more than once adds
nothing. -/
def repeatBetween (greedy : Bool) (least more : Nat) (e : Expr) : Expr :=
  let (least, more) :=
    if e.isWidthless then (min least 1, min (least + more) 1 - min least 1) else (least, more)
  match least, more with
  | 0, 0 => .empty
  | 1, 0 => e
  | _, _ => .between greedy least more e

def repeatAtLeast (greedy : Bool) (least : Nat) (e : Expr) : Expr :=
  if e.isWidthless then repeatBetween greedy least 1 e else .atLeast greedy least e

end Expr

end CommandForms.Pattern
