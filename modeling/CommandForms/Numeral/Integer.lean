/-!
# Integers in decimal

The decimal text of an integer, and the reading of a signed 64-bit integer from a typed text.
-/

namespace CommandForms.Numeral

/-- The decimal digits of an integer, after a minus sign when it is negative. -/
def integerChars (n : Int) : List Char :=
  if n < 0 then '-' :: Nat.toDigits 10 n.natAbs else Nat.toDigits 10 n.natAbs

def integerText (n : Int) : String :=
  String.ofList (integerChars n)

def digit? (c : Char) : Option Nat :=
  if '0' ≤ c ∧ c ≤ '9' then some (c.toNat - '0'.toNat) else none

/-- The number that decimal digits write, continued from `n`. -/
def digitsValue? (n : Nat) : List Char → Option Nat
  | [] => some n
  | c :: cs => do digitsValue? (10 * n + (← digit? c)) cs

def natural? : List Char → Option Nat
  | [] => none
  | cs => digitsValue? 0 cs

def int64? (n : Int) : Option Int64 :=
  if -9223372036854775808 ≤ n ∧ n < 9223372036854775808 then some (Int64.ofInt n) else none

def uint64? (n : Int) : Option UInt64 :=
  if 0 ≤ n ∧ n < 18446744073709551616 then some (UInt64.ofNat n.toNat) else none

/-- Reads a signed 64-bit integer: an optional sign and one or more decimal digits, nothing else. -/
def readInt64? : List Char → Option Int64
  | '+' :: cs => do int64? (← natural? cs)
  | '-' :: cs => do int64? (-((← natural? cs : Nat) : Int))
  | cs => do int64? (← natural? cs)

end CommandForms.Numeral
