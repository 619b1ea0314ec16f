/-!
# Run lengths

A property that gives every code point one value is written as run lengths: the short name of a value,
and then the number of consecutive code points that have it when there is more than one.
-/

namespace CommandForms.Text

/-- The code points from `first` to `last`, which share the value of a short name. -/
structure NamedRun where
  name : String
  first : Nat
  last : Nat
deriving Repr, DecidableEq

namespace NamedRun

/-- Reads run lengths from a code point on.  Names have `width` letters; `name` and `count` are what has
been read of the run at the front. -/
def readFrom (width start count : Nat) (name : List Char) : List Char → List NamedRun
  | [] => [⟨String.ofList name, start, start + max count 1 - 1⟩]
  | c :: cs =>
      if c.isDigit then readFrom width start (10 * count + (c.toNat - '0'.toNat)) name cs
      else if name.length < width then readFrom width start count (name ++ [c]) cs
      else
        ⟨String.ofList name, start, start + max count 1 - 1⟩ ::
          readFrom width (start + max count 1) 0 [c] cs

/-- The runs that a text writes with names of `width` letters. -/
def ofText (width : Nat) (text : String) : List NamedRun :=
  readFrom width 0 0 [] text.toList

def holds (run : NamedRun) (n : Nat) : Bool :=
  run.first ≤ n && n ≤ run.last

end NamedRun

end CommandForms.Text
