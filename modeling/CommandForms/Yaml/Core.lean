import CommandForms.Data
import CommandForms.Numeral.Hex
import CommandForms.Numeral.Integer
import CommandForms.Yaml.Node

/-!
# Types of scalars

Which type a plain scalar has on its own: null, a truth value, an integer, a number with a fraction or an
exponent, or else a text.  An integer that 64 bits do not hold but 128 bits do is refused; a longer one is
a number like any other.
-/

namespace CommandForms.Yaml

open CommandForms.Numeral (Double Ratio digit? hexDigit? natural?)

def isNullWord (text : String) : Bool :=
  ["null", "Null", "NULL", "~"].contains text

def boolWord? (text : String) : Option Bool :=
  if ["true", "True", "TRUE"].contains text then some true
  else if ["false", "False", "FALSE"].contains text then some false
  else none

/-! ## Integers -/

/-- Whether a scalar is a zero in front of further digits, with or without a sign. -/
def hasLeadingZero (cs : List Char) : Bool :=
  let digits := match cs with
    | '-' :: rest => rest
    | '+' :: rest => rest
    | cs => cs
  match digits with
  | '0' :: c :: rest => (c :: rest).all Char.isDigit
  | _ => false

def digitsIn? (base : Nat) (cs : List Char) : Option Nat :=
  if cs = [] then none
  else cs.foldlM (fun n c => do
    let d ← hexDigit? c
    if d < base then some (base * n + d) else none) 0

/-- The number of a literal of base sixteen, eight or two. -/
def markedNumber? : List Char → Option Nat
  | '0' :: 'x' :: digits => digitsIn? 16 digits
  | '0' :: 'o' :: digits => digitsIn? 8 digits
  | '0' :: 'b' :: digits => digitsIn? 2 digits
  | _ => none

/-- The number of an integer literal behind its sign. -/
def unsigned? (cs : List Char) : Option Nat :=
  (markedNumber? cs).or (if hasLeadingZero cs then none else natural? cs)

def integer? : List Char → Option Int
  | '-' :: cs => (unsigned? cs).map fun n => -(n : Int)
  | '+' :: cs => (unsigned? cs).map Int.ofNat
  | cs => (unsigned? cs).map Int.ofNat

/-! ## Numbers -/

/-- The digits in front of a text, and the rest. -/
def spanDigits (cs : List Char) : List Nat × List Char :=
  (cs.takeWhile Char.isDigit |>.map fun c => c.toNat - '0'.toNat, cs.dropWhile Char.isDigit)

/-- The exponent of a literal: none, or a mark, maybe a sign, and digits to the end. -/
def exponent? : List Char → Option Int
  | [] => some 0
  | c :: cs =>
      if c = 'e' ∨ c = 'E' then
        match cs with
        | '-' :: digits => (natural? digits).map fun n => -(n : Int)
        | '+' :: digits => (natural? digits).map Int.ofNat
        | digits => (natural? digits).map Int.ofNat
      else none

/-- The double nearest to `± significand · 10 ^ exponent`, unless it overflows. -/
def decimal? (negative : Bool) (significand : Nat) (exponent : Int) : Option Double :=
  let places : Int := (Nat.toDigits 10 significand).length + exponent
  if significand = 0 ∨ places < -400 then some { Double.zero with negative }
  else if 400 < places then none
  else Double.ofRatio? negative (Ratio.scale10 ⟨significand, 1⟩ exponent)

/-- The double of a literal behind its sign: digits, a point among or around them, and an exponent. -/
def unsignedDouble? (negative : Bool) (cs : List Char) : Option Double := do
  let (whole, rest) := spanDigits cs
  let (fraction, rest) := match rest with
    | '.' :: rest => spanDigits rest
    | rest => ([], rest)
  if whole = [] ∧ fraction = [] then none
  else
    let significand := (whole ++ fraction).foldl (fun n d => 10 * n + d) 0
    decimal? negative significand ((← exponent? rest) - fraction.length)

def notFiniteWords : List String :=
  [".inf", ".Inf", ".INF", "+.inf", "+.Inf", "+.INF", "-.inf", "-.Inf", "-.INF", ".nan", ".NaN", ".NAN"]

def double? (text : String) : Option Data :=
  if notFiniteWords.contains text then some .notFinite
  else
    let double := match text.toList with
      | '-' :: cs => unsignedDouble? true cs
      | '+' :: cs => unsignedDouble? false cs
      | cs => unsignedDouble? false cs
    double.map .double

/-! ## Scalars -/

/-- The integer that a literal writes as data; nothing for one between 64 and 128 bits. -/
def integerData? (text : String) (n : Int) : Option Data :=
  if n = 0 ∧ text.toList.head? = some '-' then some .minusZero
  else if -9223372036854775808 ≤ n ∧ n < 18446744073709551616 then some (.integer n)
  else none

def fits128 (n : Int) : Bool :=
  -170141183460469231731687303715884105728 ≤ n && n < 340282366920938463463374607431768211456

def wideInteger? (text : String) : Option Int :=
  (integer? text.toList).filter fits128

def plainData? (text : String) : Option Data :=
  if text = "" ∨ isNullWord text then some .null
  else
    match boolWord? text with
    | some b => some (.bool b)
    | none =>
        match wideInteger? text with
        | some n => integerData? text n
        | none =>
            if hasLeadingZero text.toList then some (.text text)
            else some ((double? text).getD (.text text))

def coreTag (name : String) : Tag :=
  ⟨bytesOf ("tag:yaml.org,2002:" ++ name)⟩

def Tag.isLocal (tag : Tag) : Bool :=
  tag.bytes.head? == some 0x21

/-- Whether a tag names a type of an application's own: it is local, and its bytes form characters. -/
def Tag.namesOwnType (tag : Tag) : Bool :=
  tag.isLocal && (String.fromUTF8? tag.bytes.toByteArray).isSome

def untaggedData? (style : Style) (text : String) : Option Data :=
  if style = .plain then plainData? text else some (.text text)

/-- The data of a scalar with a tag.  The tag asks for a type; an application's own type is refused, and
any other tag that is not local makes a text. -/
def taggedData? (tag : Tag) (style : Style) (text : String) : Option Data :=
  if tag.namesOwnType then none
  else if tag = coreTag "bool" then (boolWord? text).map .bool
  else if tag = coreTag "int" then (wideInteger? text).bind (integerData? text)
  else if tag = coreTag "float" then double? text
  else if tag = coreTag "null" then if isNullWord text then some .null else none
  else if tag.isLocal then untaggedData? style text
  else some (.text text)

def scalarData? (tag : Option Tag) (style : Style) (text : String) : Option Data :=
  match tag with
  | none => untaggedData? style text
  | some tag => taggedData? tag style text

end CommandForms.Yaml
