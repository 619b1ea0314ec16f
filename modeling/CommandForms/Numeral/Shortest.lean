import CommandForms.Numeral.Double

/-!
# Shortest decimals

The shortest decimal that reads back as a given double: of the decimals with the fewest digits inside
the interval of reals that round to the double, the one nearest to it.  A decimal is written with a
point when its exponent is moderate and in scientific form otherwise.
-/

namespace CommandForms.Numeral

/-- The decimal `digits · 10 ^ exponent`. -/
structure Decimal where
  digits : Nat
  exponent : Int
deriving Repr, DecidableEq

namespace Double

/-- Whether `x / 4 · 2 ^ exponent`, for `x` a ratio, rounds to the double.  The interval is half as wide
below a power of two, and its ends belong to it when the significand is even. -/
def roundsFromQuarters (d : Double) (x : Ratio) : Bool :=
  let m := d.significand
  let below := if m = fractionCount ∧ 1 < d.exponentField then 1 else 2
  let lo := (4 * m - below) * x.den
  let hi := (4 * m + 2) * x.den
  if m % 2 = 0 then lo ≤ x.num && x.num ≤ hi else lo < x.num && x.num < hi

def roundsFrom (d : Double) (x : Decimal) : Bool :=
  d.roundsFromQuarters ((Ratio.scale10 ⟨x.digits, 1⟩ x.exponent).scale2 (2 - d.exponent))

def log10 (d : Double) : Int :=
  let guess := d.magnitude.log2 * 30103 / 100000
  if 0 < (d.magnitude.scale10 (-(guess + 1))).floor then guess + 1 else guess

/-- The nearest decimal on the grid of `10 ^ exponent` that reads back, a tie going to the even one. -/
def onGrid? (d : Double) (exponent : Int) : Option Decimal :=
  let r := d.magnitude.scale10 (-exponent)
  let lower : Decimal := ⟨r.floor, exponent⟩
  let upper : Decimal := ⟨r.floor + 1, exponent⟩
  let nearest : Decimal := ⟨r.roundEven, exponent⟩
  if d.roundsFrom nearest then some nearest
  else if d.roundsFrom lower then some lower
  else if d.roundsFrom upper then some upper
  else none

/-- The first grid, from `count` digits on, that holds a decimal that reads back. -/
def firstGrid (d : Double) (top : Int) : Nat → Nat → Decimal
  | 0, count => ⟨(d.magnitude.scale10 (count - 1 - top)).roundEven, top - count + 1⟩
  | more + 1, count =>
      match d.onGrid? (top - count + 1) with
      | some x => x
      | none => firstGrid d top more (count + 1)

end Double

/-- Drops the trailing zeros of the digits; `places` bounds how many are dropped. -/
def Decimal.strip : Nat → Decimal → Decimal
  | 0, x => x
  | places + 1, x =>
      if x.digits ≠ 0 ∧ x.digits % 10 = 0 then strip places ⟨x.digits / 10, x.exponent + 1⟩ else x

def Double.shortest (d : Double) : Decimal :=
  if d.isZero then ⟨0, 0⟩ else (d.firstGrid d.log10 16 1).strip 20

/-! ## Layout -/

def zeros (n : Nat) : List Char :=
  List.replicate n '0'

/-- Positional notation from the exponent `-5` up to `15`, always with a point; scientific notation
with a signed exponent elsewhere. -/
def Decimal.layout (x : Decimal) : List Char :=
  let ds := Nat.toDigits 10 x.digits
  let point : Int := ds.length + x.exponent
  if x.digits = 0 then ['0', '.', '0']
  else if 0 ≤ x.exponent ∧ point ≤ 16 then ds ++ zeros x.exponent.toNat ++ ['.', '0']
  else if 0 < point ∧ point ≤ 16 then ds.take point.toNat ++ '.' :: ds.drop point.toNat
  else if -5 < point ∧ point ≤ 0 then ['0', '.'] ++ zeros (-point).toNat ++ ds
  else
    let fraction := if ds.length = 1 then [] else '.' :: ds.drop 1
    let sign := if point - 1 < 0 then '-' else '+'
    ds.take 1 ++ fraction ++ 'e' :: sign :: Nat.toDigits 10 (point - 1).natAbs

def Double.text (d : Double) : List Char :=
  (if d.negative then ['-'] else []) ++ d.shortest.layout

end CommandForms.Numeral
