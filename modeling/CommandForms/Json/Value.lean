import CommandForms.Keyed
import CommandForms.Numeral.Shortest

/-!
# JSON values

Numbers are integers of the signed or the unsigned 64-bit range, or finite doubles.  An object is the
list of its members; a value is in normal form when the members of every object ascend by key.
-/

namespace CommandForms.Json

open CommandForms.Numeral (Double)

/-- A number of a JSON text.  An integer is at least `-2 ^ 63` and less than `2 ^ 64`. -/
inductive Number
  | integer (n : Int) (fits : -9223372036854775808 ≤ n ∧ n < 18446744073709551616)
  | double (d : Double)
deriving Repr, DecidableEq

namespace Number

def ofInt64 (n : Int64) : Number :=
  .integer n.toInt ⟨by have := n.le_toInt; omega, by have := n.toInt_lt; omega⟩

def ofUInt64 (n : UInt64) : Number :=
  .integer n.toNat ⟨by omega, by have := n.toNat_lt; omega⟩

end Number

inductive Value
  | null
  | bool (b : Bool)
  | number (n : Number)
  | string (s : String)
  | array (items : List Value)
  | object (members : List (String × Value))
deriving Repr, Inhabited

namespace Value

/-! ## Normal form -/

mutual

/-- The value with the members of every object in ascending order; the last of several members with
one key is kept. -/
def normalize : Value → Value
  | .array items => .array (normalizeItems items)
  | .object members => .object (Entries.ofList (normalizeMembers members))
  | value => value

def normalizeItems : List Value → List Value
  | [] => []
  | item :: items => item.normalize :: normalizeItems items

def normalizeMembers : List (String × Value) → List (String × Value)
  | [] => []
  | (key, value) :: members => (key, value.normalize) :: normalizeMembers members

end

def isNull : Value → Bool
  | .null => true
  | _ => false

/-! ## Safe integers -/

/-- The greatest magnitude up to which every integer is a double: `2 ^ 53 - 1`. -/
def maxSafeInteger : Nat := 9007199254740991

/-- The integer that a value stands for, when it is a number without a fraction part whose magnitude
is safe. -/
def safeInteger? : Value → Option Int
  | .number (.integer n _) => if n.natAbs ≤ maxSafeInteger then some n else none
  | .number (.double d) => d.toInt?.filter (·.natAbs ≤ maxSafeInteger)
  | _ => none

end Value

end CommandForms.Json
