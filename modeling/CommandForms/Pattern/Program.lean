import CommandForms.Pattern.Expr

/-!
# Matching programs

An expression as a program of numbered steps.  A step consumes a character, checks a condition, forks, or
accepts; a fork lists the steps behind it in the order of preference of the expression.
-/

namespace CommandForms.Pattern

open CommandForms.Text (CodePoints)

/-- A step of a program, with the numbers of the steps behind it. -/
inductive Step
  | consume (set : CodePoints) (next : Nat)
  | check (a : Assertion) (next : Nat)
  | fork (nexts : List Nat)
  | accept
deriving Repr, DecidableEq

/-- A program and the number of its first step. -/
structure Program where
  steps : Array Step
  start : Nat
deriving Repr, DecidableEq

/-- Writes steps in front of a step, and answers the number of the first of them. -/
abbrev Writer := (next : Nat) → Array Step → Nat × Array Step

namespace Step

def write (step : Step) (steps : Array Step) : Nat × Array Step :=
  (steps.size, steps.push step)

/-- A choice between going on and leaving; a reluctant one prefers to leave. -/
def choice (greedy : Bool) (more leave : Nat) : Step :=
  .fork (if greedy then [more, leave] else [leave, more])

end Step

namespace Writer

def times (w : Writer) : (n : Nat) → Writer
  | 0, next, steps => (next, steps)
  | n + 1, next, steps =>
      let (start, steps) := w next steps
      times w n start steps

/-- What is written up to `n` times in a row; every time may be the last.  `start` is the step that the
last repetition leads to. -/
def upTo (w : Writer) (greedy : Bool) (leave : Nat) : (n : Nat) → Writer
  | 0, start, steps => (start, steps)
  | n + 1, start, steps =>
      let (body, steps) := w start steps
      let (start, steps) := (Step.choice greedy body leave).write steps
      upTo w greedy leave n start steps

/-- What is written once or more often.  Behind the body stands a choice that leads back to it. -/
def repeated (w : Writer) (greedy : Bool) : Writer :=
  fun next steps =>
    let (loop, steps) := Step.accept.write steps
    let (body, steps) := w loop steps
    (body, steps.setIfInBounds loop (.choice greedy body next))

/-- Any number of times: once or more often, or not at all.  The choice at the front is not the one
behind the body, so that a body that matched nothing still leads on. -/
def star (w : Writer) (greedy : Bool) : Writer :=
  fun next steps =>
    let (body, steps) := w.repeated greedy next steps
    (Step.choice greedy body next).write steps

end Writer

namespace Expr

def write : Expr → Writer
  | .empty, next, steps => (next, steps)
  | .chars set, next, steps => (Step.consume set next).write steps
  | .assertion a, next, steps => (Step.check a next).write steps
  | .seq a b, next, steps =>
      let (middle, steps) := b.write next steps
      a.write middle steps
  | .alt a b, next, steps =>
      let (right, steps) := b.write next steps
      let (left, steps) := a.write next steps
      (Step.fork [left, right]).write steps
  | .capture e, next, steps => e.write next steps
  | .atLeast greedy 0 e, next, steps => Writer.star e.write greedy next steps
  | .atLeast greedy (least + 1) e, next, steps =>
      let (start, steps) := Writer.repeated e.write greedy next steps
      Writer.times e.write least start steps
  | .between greedy least more e, next, steps =>
      let (start, steps) := Writer.upTo e.write greedy next more next steps
      Writer.times e.write least start steps

def program (e : Expr) : Program :=
  let (accept, steps) := Step.accept.write #[]
  let (start, steps) := e.write accept steps
  ⟨steps, start⟩

end Expr

end CommandForms.Pattern
