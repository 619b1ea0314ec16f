import CommandForms.Pattern.Program

/-!
# Searching

A search follows all threads of a program through a text at once, in order of preference.  At every place
each step belongs to the first thread that reaches it, so a search takes time in proportion to the text
and to the program.  A thread that accepts ends the threads behind it.
-/

namespace CommandForms.Pattern

/-- A thread of a search: the step that it waits at, and where in the text it started. -/
structure Thread where
  step : Nat
  start : Nat
deriving Repr, DecidableEq

/-- A match: the places where it starts and stops, as numbers of characters from the front. -/
structure Match where
  start : Nat
  stop : Nat
deriving Repr, DecidableEq

/-- The threads at a place, the preferred one last, and the steps that they have taken. -/
structure Threads where
  taken : Array Bool
  waiting : List Thread

namespace Program

/-- The number of steps behind steps, which bounds what one thread can reach at a place. -/
def reach (p : Program) : Nat :=
  p.steps.foldl (fun n step =>
    match step with
    | .fork nexts => n + nexts.length
    | _ => n + 1) 1

def follow (p : Program) (place : Cursor) (start : Nat) : (bound : Nat) → List Nat → Threads → Threads
  | 0, _, ts => ts
  | _, [], ts => ts
  | bound + 1, i :: pending, ts =>
      if ts.taken.getD i true then p.follow place start bound pending ts
      else
        let taken := ts.taken.setIfInBounds i true
        match p.steps[i]? with
        | none => p.follow place start bound pending ⟨taken, ts.waiting⟩
        | some (.fork nexts) => p.follow place start bound (nexts ++ pending) ⟨taken, ts.waiting⟩
        | some (.check a next) =>
            p.follow place start bound (if a.holds place then next :: pending else pending)
              ⟨taken, ts.waiting⟩
        | some (.consume _ _) =>
            p.follow place start bound pending ⟨taken, ⟨i, start⟩ :: ts.waiting⟩
        | some .accept => p.follow place start bound pending ⟨taken, ⟨i, start⟩ :: ts.waiting⟩

def noThreads (p : Program) : Threads :=
  ⟨Array.replicate p.steps.size false, []⟩

/-- The threads in order of preference up to the first that accepts, and where that one started. -/
def untilAccept (p : Program) : List Thread → List Thread × Option Nat
  | [] => ([], none)
  | t :: ts =>
      match p.steps[t.step]? with
      | some .accept => ([], some t.start)
      | _ =>
          let (before, accepted) := p.untilAccept ts
          (t :: before, accepted)

def consume (p : Program) (reach : Nat) (c : Char) (place : Cursor) (ts : List Thread) : Threads :=
  let go (next : Threads) (t : Thread) : Threads :=
    match p.steps[t.step]? with
    | some (.consume set i) =>
        if set.contains c then p.follow place t.start reach [i] next else next
    | _ => next
  ts.foldl go p.noThreads

/-- Follows threads through the rest of a text, and starts one at every place as long as there is no match.
The last match found is the answer: a later one comes from a thread that is preferred. -/
def run (p : Program) (reach : Nat) (before : Option Char) (index : Nat) (threads : Threads)
    (found : Option Match) : List Char → Option Match
  | [] =>
      let threads :=
        if found.isSome then threads else p.follow ⟨before, []⟩ index reach [p.start] threads
      match (p.untilAccept threads.waiting.reverse).2 with
      | some start => some ⟨start, index⟩
      | none => found
  | c :: cs =>
      let threads :=
        if found.isSome then threads else p.follow ⟨before, c :: cs⟩ index reach [p.start] threads
      let (waiting, accepted) := p.untilAccept threads.waiting.reverse
      let found := (accepted.map fun start => Match.mk start index).or found
      if waiting.isEmpty ∧ found.isSome then found
      else p.run reach (some c) (index + 1) (p.consume reach c ⟨some c, cs⟩ waiting) found cs

/-- The first match at or behind a place; `index` characters are in front of it. -/
def find? (p : Program) (place : Cursor) (index : Nat) : Option Match :=
  p.run p.reach place.before index p.noThreads none place.rest

end Program

namespace Cursor

def forward : (n : Nat) → Cursor → Cursor
  | 0, place => place
  | n + 1, ⟨_, c :: cs⟩ => forward n ⟨some c, cs⟩
  | _ + 1, ⟨before, []⟩ => ⟨before, []⟩

end Cursor

namespace Program

/-- Where the matches from a place on stop.  Matches do not overlap, and an empty match right behind
another match is passed over; `last?` is where the match before stopped. -/
def stopsFrom (p : Program) : (bound : Nat) → Cursor → (index : Nat) → (last? : Option Nat) → List Nat
  | 0, _, _, _ => []
  | bound + 1, place, index, last? =>
      match p.find? place index with
      | none => []
      | some m =>
          if m.start = m.stop ∧ last? = some m.stop then
            match place.rest with
            | [] => []
            | _ :: _ => p.stopsFrom bound (place.forward 1) (index + 1) last?
          else m.stop :: p.stopsFrom bound (place.forward (m.stop - index)) m.stop (some m.stop)

/-- Where the matches in a text stop, as numbers of characters from its front. -/
def matchStops (p : Program) (cs : List Char) : List Nat :=
  p.stopsFrom (2 * cs.length + 2) ⟨none, cs⟩ 0 none

end Program

end CommandForms.Pattern
