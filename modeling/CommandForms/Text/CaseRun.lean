/-!
# Runs of case pairs

A one-to-one case mapping is kept as sorted runs of characters that all move by the same distance.
-/

namespace CommandForms.Text

/-- The code points `first, first + step, …, last`, each of which moves by `shift`. -/
structure CaseRun where
  first : Nat
  last : Nat
  step : Nat
  shift : Int
deriving Repr, DecidableEq

namespace CaseRun

def holds (run : CaseRun) (n : Nat) : Bool :=
  run.first ≤ n && n ≤ run.last && (n - run.first) % run.step == 0

/-- The shift of the run that holds a code point; the runs ascend, so the search stops early. -/
def shift? : List CaseRun → Nat → Option Int
  | [], _ => none
  | run :: runs, n =>
      if n < run.first then none
      else if run.holds n then some run.shift
      else shift? runs n

/-- The image of a character; a character that no run holds stays as it is. -/
def map (runs : List CaseRun) (c : Char) : Char :=
  match shift? runs c.toNat with
  | some shift => Char.ofNat (c.toNat + shift).toNat
  | none => c

/-- The code points of a run, each in front of its image. -/
def pairs (run : CaseRun) : List (Nat × Nat) :=
  (List.range ((run.last - run.first) / run.step + 1)).map fun i =>
    let n := run.first + i * run.step
    (n, (n + run.shift).toNat)

end CaseRun

end CommandForms.Text
