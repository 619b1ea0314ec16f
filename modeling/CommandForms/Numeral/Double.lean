/-!
# Finite doubles

The finite numbers of the 64-bit binary floating-point format, kept by their bit patterns, with exact
arithmetic on natural numbers behind every rounding.
-/

namespace CommandForms.Numeral

/-- How many fractions an exponent has: `2 ^ 52`. -/
abbrev fractionCount : Nat := 4503599627370496

/-- A finite double: its sign, and the pattern of its exponent and fraction bits, which ascends with
the magnitude. -/
structure Double where
  negative : Bool
  pattern : Nat
  finite : pattern < 2047 * fractionCount := by decide
deriving Repr, DecidableEq

structure Ratio where
  num : Nat
  den : Nat
deriving Repr, DecidableEq

namespace Ratio

def scale2 (r : Ratio) (k : Int) : Ratio :=
  if 0 ≤ k then ⟨r.num * Nat.pow 2 k.toNat, r.den⟩ else ⟨r.num, r.den * Nat.pow 2 (-k).toNat⟩

def scale10 (r : Ratio) (k : Int) : Ratio :=
  if 0 ≤ k then ⟨r.num * Nat.pow 10 k.toNat, r.den⟩ else ⟨r.num, r.den * Nat.pow 10 (-k).toNat⟩

def floor (r : Ratio) : Nat :=
  r.num / r.den

/-- The nearest natural number, a half going to the even neighbour. -/
def roundEven (r : Ratio) : Nat :=
  let q := r.num / r.den
  let rest := 2 * (r.num % r.den)
  if rest < r.den then q
  else if rest = r.den then q + q % 2
  else q + 1

def log2 (r : Ratio) : Int :=
  let guess : Int := (r.num.log2 : Int) - r.den.log2
  if 0 < (r.scale2 (-guess)).floor then guess else guess - 1

end Ratio

namespace Double

def exponentField (d : Double) : Nat :=
  d.pattern / fractionCount

def significand (d : Double) : Nat :=
  if d.exponentField = 0 then d.pattern else fractionCount + d.pattern % fractionCount

def exponent (d : Double) : Int :=
  (max d.exponentField 1 : Nat) - 1075

def magnitude (d : Double) : Ratio :=
  Ratio.scale2 ⟨d.significand, 1⟩ d.exponent

/-- The bit pattern nearest to a ratio, a half going to the even pattern.  Past the greatest finite
pattern it says how far the rounding overflows. -/
def nearestPattern (r : Ratio) : Nat :=
  if r.num = 0 then 0
  else
    let e := max (r.log2 - 52) (-1074)
    (e + 1074).toNat * fractionCount + (r.scale2 (-e)).roundEven

/-- The double nearest to a signed ratio, unless it overflows. -/
def ofRatio? (negative : Bool) (r : Ratio) : Option Double :=
  let pattern := nearestPattern r
  if h : pattern < 2047 * fractionCount then some ⟨negative, pattern, h⟩ else none

/-- The rounded product, unless it overflows. -/
def mul? (a b : Double) : Option Double :=
  ofRatio? (a.negative != b.negative)
    (Ratio.scale2 ⟨a.significand * b.significand, 1⟩ (a.exponent + b.exponent))

/-- The rounded quotient by a double other than zero, unless it overflows. -/
def div? (a b : Double) : Option Double :=
  ofRatio? (a.negative != b.negative)
    (Ratio.scale2 ⟨a.significand, b.significand⟩ (a.exponent - b.exponent))

def neg (d : Double) : Double :=
  { d with negative := !d.negative }

/-- The whole number that the double is, when it is one. -/
def toInt? (d : Double) : Option Int :=
  let m := d.magnitude
  if m.num % m.den = 0 then
    some (if d.negative then -((m.num / m.den : Nat) : Int) else (m.num / m.den : Nat))
  else none

def zero : Double := ⟨false, 0, by decide⟩

def isZero (d : Double) : Bool :=
  d.pattern == 0

end Double

end CommandForms.Numeral
